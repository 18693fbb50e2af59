import AardvarkWms.ClientAddress
import AardvarkWms.FixedWindow
import AardvarkWms.Separators

/-! Rate limits: `src/common/rate-limit.middleware.ts`, with the counts in memory or in the database. -/
namespace AardvarkWms.RateLimiting

open Messaging (Str)
open ClientAddress FixedWindow

/-- The numbers are whole. -/
structure BasicRateLimitOptions where
  windowMs : ℤ
  max : ℤ
  keyPrefix : Option Str
  trustProxyHops : Option ℤ
  authLoginMax : Option ℤ
  authRefreshMax : Option ℤ
  webhookMax : Option ℤ

def clampInteger (value min max : ℤ) : ℤ := Min.min max (Max.max min value)

def windowLength (options : BasicRateLimitOptions) : ℤ :=
  clampInteger options.windowMs 1000 86400000

def getMaxForRateLimitKey (rawKey : Str) (options : BasicRateLimitOptions) : ℤ :=
  let routeBucket := rawKey.takeWhile (·≠ ':')
  let defaultMax := clampInteger options.max 1 100000
  if routeBucket="auth-login".toList then
    clampInteger (options.authLoginMax.getD (min defaultMax 20)) 1 100000
  else if routeBucket="auth-refresh".toList then
    clampInteger (options.authRefreshMax.getD (min defaultMax 120)) 1 100000
  else if routeBucket="webhook".toList then
    clampInteger (options.webhookMax.getD defaultMax) 1 100000
  else defaultMax

def storedKey (options : BasicRateLimitOptions) (rawKey : Str) : Str :=
  options.keyPrefix.getD "wms".toList++ ':'::rawKey

/-- What the app is started with, as its settings are checked. -/
structure RateLimitSettings where
  windowMs : ℤ
  max : ℤ
  authLoginMax : ℤ
  authRefreshMax : ℤ
  webhookMax : ℤ
  trustProxyHops : ℤ
  windowMs_checked : 1000≤windowMs ∧ windowMs≤86400000
  max_checked : 1 ≤ max ∧ max≤100000
  authLoginMax_checked : 1≤authLoginMax ∧ authLoginMax≤100000
  authRefreshMax_checked : 1≤authRefreshMax ∧ authRefreshMax≤100000
  webhookMax_checked : 1≤webhookMax ∧ webhookMax≤100000
  trustProxyHops_checked : 0≤trustProxyHops ∧ trustProxyHops≤10

def RateLimitSettings.options (settings : RateLimitSettings) : BasicRateLimitOptions where
  windowMs := settings.windowMs
  max := settings.max
  keyPrefix := none
  trustProxyHops := some settings.trustProxyHops
  authLoginMax := some settings.authLoginMax
  authRefreshMax := some settings.authRefreshMax
  webhookMax := some settings.webhookMax

structure RateLimitDecision where
  allowed : Bool
  key : Str
  limit : ℤ
  remaining : ℤ
  resetAt : ℤ
  deriving DecidableEq

/-- What is decided of a key with its bucket. -/
def decision (key : Str) (max : ℤ) (bucket : Bucket) : RateLimitDecision where
  allowed := bucket.count ≤ max
  key := key
  limit := max
  remaining := Max.max 0 (max-bucket.count)
  resetAt := bucket.resetAt

/-- The buckets in the order in which their keys came. -/
structure Buckets where
  entries : List (Str × Bucket)
  distinct : (entries.map (·.1)).Nodup

namespace Buckets

def empty : Buckets := ⟨[],List.nodup_nil⟩

def get (buckets : Buckets) (key : Str) : Option Bucket :=
  (buckets.entries.find? (·.1=key)).map (·.2)

def replaced (entries : List (Str × Bucket)) (key : Str) (bucket : Bucket) : List (Str × Bucket) :=
  if key∈entries.map (·.1) then entries.map fun e => if e.1=key then (key,bucket) else e
  else entries++[(key,bucket)]

theorem replaced_distinct {entries : List (Str × Bucket)} (h : (entries.map (·.1)).Nodup)
    (key : Str) (bucket : Bucket) : ((replaced entries key bucket).map (·.1)).Nodup := by
  unfold replaced
  split
  · have hkeys : (entries.map fun e => if e.1=key then (key,bucket) else e).map (·.1)=
        entries.map (·.1) := by
      rw [List.map_map]
      refine List.map_congr_left fun e _ => ?_
      rw [Function.comp_apply]
      split
      · rename_i he
        exact he.symm
      · rfl
    rw [hkeys]
    exact h
  · rename_i hnew
    rw [List.map_append]
    exact List.nodup_append'.mpr ⟨h,List.nodup_singleton key,by simpa using hnew⟩

def set (buckets : Buckets) (key : Str) (bucket : Bucket) : Buckets :=
  ⟨replaced buckets.entries key bucket,replaced_distinct buckets.distinct key bucket⟩

/-- Only the buckets whose window has not ended stay. -/
def expire (buckets : Buckets) (now : ℤ) : Buckets :=
  ⟨buckets.entries.filter fun e => now < e.2.resetAt,
    buckets.distinct.sublist (List.filter_sublist.map _)⟩

/-- The bucket of a key with another call, and the map with it. -/
def increment (buckets : Buckets) (windowMs : ℤ) (key : Str) (currentTime : ℤ) :
    Buckets × Bucket :=
  let existing := buckets.get key
  let bucket :=
    match existing with
    | some b => if currentTime < b.resetAt then b else ⟨0,currentTime+windowMs⟩
    | none => ⟨0,currentTime+windowMs⟩
  let bucket : Bucket := { bucket with count := bucket.count+1 }
  let buckets := buckets.set key bucket
  (if 10000 < buckets.entries.length then buckets.expire currentTime else buckets,bucket)

end Buckets

/-- The store's answer to a key, and the map after it. -/
def createRateLimitStore (options : BasicRateLimitOptions) (buckets : Buckets) (rawKey : Str)
    (now : ℤ) : Buckets × RateLimitDecision :=
  let normalizedRawKey := if rawKey=[] then "unknown".toList else rawKey
  let max := getMaxForRateLimitKey normalizedRawKey options
  let key := storedKey options normalizedRawKey
  let counted := buckets.increment (windowLength options) key now
  (counted.1,decision key max counted.2)

/-- The rows of `rate_limit_buckets`, by their primary key. -/
abbrev RateLimitBuckets : Type := Str → Option Bucket

/-- The statement that inserts the row or, where there is one, updates it, and returns it. -/
def upsert (table : RateLimitBuckets) (key : Str) (resetAt now : ℤ) : RateLimitBuckets × Bucket :=
  let row : Bucket :=
    match table key with
    | none => ⟨1,resetAt⟩
    | some row =>
      { count := if row.resetAt≤now then 1 else row.count+1
        resetAt := if row.resetAt≤now then resetAt else row.resetAt }
  (Function.update table key (some row),row)

/-- `PostgresRateLimitStore.increment`; the database's clock is the server's. -/
def increment (table : RateLimitBuckets) (key : Str) (windowMs max now : ℤ) :
    RateLimitBuckets × RateLimitDecision :=
  let returned := upsert table key (now+windowMs) now
  (returned.1,decision key max returned.2)

/-- The count of a raw key, as the distributed middleware asks for it. -/
def decideStored (options : BasicRateLimitOptions) (table : RateLimitBuckets) (rawKey : Str)
    (now : ℤ) : RateLimitBuckets × RateLimitDecision :=
  increment table (storedKey options rawKey) (windowLength options)
    (getMaxForRateLimitKey rawKey options) now

section Middlewares

/-- One of two decisions. -/
def stricter (selected current : RateLimitDecision) : RateLimitDecision :=
  if !selected.allowed && current.allowed then selected
  else if selected.allowed && !current.allowed then current
  else if current.remaining < selected.remaining then current
  else if current.remaining=selected.remaining ∧ selected.resetAt < current.resetAt then current
  else selected

def selectMostRestrictiveDecision (decisions : List RateLimitDecision) : Option RateLimitDecision :=
  match decisions with
  | [] => none
  | first::rest => some (rest.foldl stricter first)

/-- What becomes of a request: it is handed on, with the headers if there is a decision, it is
refused, or it fails. -/
inductive Outcome
  | passed (headers : Option RateLimitDecision)
  | exceeded (headers : RateLimitDecision)
  | failed
  deriving DecidableEq

def Outcome.isPassed : Outcome → Bool
  | .passed _ => true
  | _ => false

/-- The decisions of a request, one a key, and what becomes of it. -/
structure Handled where
  decisions : List RateLimitDecision
  outcome : Outcome
  deriving DecidableEq

def answer (decisions : List RateLimitDecision) : Outcome :=
  match selectMostRestrictiveDecision decisions with
  | some d => if d.allowed then .passed (some d) else .exceeded d
  | none => .failed

/-- A request with the times at which its keys are counted, and whether the database counts them. -/
structure Visit where
  request : RateLimitRequest
  ipTime : ℤ
  accountTime : ℤ
  ipStored : Bool
  accountStored : Bool

variable (env : KeyMaker) (options : BasicRateLimitOptions) {σ : Type}

def Visit.keys (visit : Visit) : List Str :=
  buildRateLimitKeys env visit.request options.trustProxyHops

def Visit.times (visit : Visit) : List ℤ := [visit.ipTime,visit.accountTime]

def Visit.calls (visit : Visit) : List (Str × ℤ) := (visit.keys env options).zip visit.times

/-- The calls that the database does not fail. -/
def Visit.storedCalls (visit : Visit) : List (Str × ℤ) :=
  (((visit.calls env options).zip [visit.ipStored,visit.accountStored]).filter (·.2)).map (·.1)

/-- Whether all the calls are counted. -/
def Visit.isStored (visit : Visit) : Bool :=
  ((visit.calls env options).zip [visit.ipStored,visit.accountStored]).all (·.2)

def decideAll (decide : σ → Str → ℤ → σ × RateLimitDecision) (s : σ) :
    List (Str × ℤ) → σ × List RateLimitDecision
  | [] => (s,[])
  | c::calls =>
    let first := decide s c.1 c.2
    let rest := decideAll decide first.1 calls
    (rest.1,first.2::rest.2)

def createBasicRateLimitMiddleware (buckets : Buckets) (visit : Visit) : Buckets × Handled :=
  let decided := decideAll (createRateLimitStore options) buckets (visit.calls env options)
  (decided.1,⟨decided.2,answer decided.2⟩)

/-- Where the database fails, the request is handed on if the middleware fails open. -/
def createDistributedRateLimitMiddleware (failOpen : Bool) (table : RateLimitBuckets)
    (visit : Visit) : RateLimitBuckets × Handled :=
  let decided := decideAll (decideStored options) table (visit.storedCalls env options)
  (decided.1,⟨decided.2,
    if visit.isStored env options then answer decided.2
    else if failOpen then .passed none else .failed⟩)

/-- Requests one after another. -/
def serve (handle : σ → Visit → σ × Handled) (s : σ) : List Visit → List (Visit × Handled)
  | [] => []
  | v::visits =>
    let handled := handle s v
    (v,handled.2)::serve handle handled.1 visits

end Middlewares

section Stores
variable {options : BasicRateLimitOptions} {buckets : Buckets} {key key' : Str} {bucket : Bucket}

theorem storedKey_inj {rawKey rawKey' : Str} :
    storedKey options rawKey=storedKey options rawKey' ↔ rawKey=rawKey' := by
  unfold storedKey
  rw [List.append_right_inj,List.cons.injEq,and_iff_right rfl]

theorem windowLength_pos (options : BasicRateLimitOptions) : 0 < windowLength options := by
  unfold windowLength clampInteger
  omega

namespace Buckets

theorem find_replaced (entries : List (Str × Bucket)) (key key' : Str) (bucket : Bucket) :
    ((replaced entries key bucket).find? (·.1=key')).map (·.2)=
      if key'=key then some bucket else (entries.find? (·.1=key')).map (·.2) := by
  have hmap : ∀ entries : List (Str × Bucket),
      ((entries.map fun e => if e.1=key then (key,bucket) else e).find? (·.1=key')).map (·.2)=
        if key'=key ∧ key∈entries.map (·.1) then some bucket
        else (entries.find? (·.1=key')).map (·.2) := by
    intro entries
    induction entries with
    | nil => simp
    | cons e entries ih =>
      rw [List.map_cons]
      by_cases he : e.1=key
      · rw [if_pos he]
        by_cases hk : key'=key
        · simp [hk,he]
        · rw [List.find?_cons_of_neg (by simpa using Ne.symm hk),ih,if_neg fun h => hk h.1,
            if_neg fun h => hk h.1,List.find?_cons_of_neg (by simpa [he] using Ne.symm hk)]
      · rw [if_neg he]
        by_cases hk : e.1=key'
        · have hne : key'≠key := fun h => he (hk.trans h)
          rw [if_neg fun h => hne h.1,List.find?_cons_of_pos (by simpa using hk),
            List.find?_cons_of_pos (by simpa using hk)]
        · have hmem : key∈(e::entries).map (·.1) ↔ key∈entries.map (·.1) := by
            rw [List.map_cons,List.mem_cons,or_iff_right (Ne.symm he)]
          rw [List.find?_cons_of_neg (by simpa using hk),ih,
            List.find?_cons_of_neg (by simpa using hk)]
          simp only [hmem]
  unfold replaced
  split
  · rename_i hmem
    rw [hmap]
    simp only [hmem,and_true]
  · rename_i hmem
    rw [List.find?_append]
    by_cases hk : key'=key
    · have hnone : entries.find? (·.1=key')=none := by
        refine List.find?_eq_none.mpr fun e he hsame => hmem ?_
        rw [← hk,← of_decide_eq_true hsame]
        exact List.mem_map_of_mem he
      rw [hnone,if_pos hk,hk]
      simp
    · rw [if_neg hk,List.find?_cons_of_neg (by simpa using Ne.symm hk)]
      simp

theorem get_set : (buckets.set key bucket).get key'=
    if key'=key then some bucket else buckets.get key' := find_replaced buckets.entries key key' bucket

theorem get_expire (now : ℤ) : (buckets.expire now).get key=live now (buckets.get key) := by
  have hfilter : ∀ entries : List (Str × Bucket), (entries.map (·.1)).Nodup →
      ((entries.filter fun e => now < e.2.resetAt).find? (·.1=key)).map (·.2)=
        live now ((entries.find? (·.1=key)).map (·.2)) := by
    intro entries hdistinct
    induction entries with
    | nil => rfl
    | cons e entries ih =>
      rw [List.map_cons,List.nodup_cons] at hdistinct
      have hrest := ih hdistinct.2
      by_cases hk : e.1=key
      · rw [List.find?_cons_of_pos (by simpa using hk),Option.map_some]
        by_cases hlive : now < e.2.resetAt
        · rw [List.filter_cons_of_pos (by simpa using hlive),
            List.find?_cons_of_pos (by simpa using hk),Option.map_some]
          exact (live_some.mpr ⟨rfl,hlive⟩).symm
        · have hnone : entries.find? (·.1=key)=none := by
            refine List.find?_eq_none.mpr fun x hx hsame => hdistinct.1 ?_
            rw [hk,← of_decide_eq_true hsame]
            exact List.mem_map_of_mem hx
          rw [List.filter_cons_of_neg (by simpa using hlive),hrest,hnone,live_over (by omega)]
          rfl
      · rw [List.find?_cons_of_neg (by simpa using hk)]
        by_cases hlive : now < e.2.resetAt
        · rw [List.filter_cons_of_pos (by simpa using hlive),
            List.find?_cons_of_neg (by simpa using hk),hrest]
        · rw [List.filter_cons_of_neg (by simpa using hlive),hrest]
  exact hfilter buckets.entries buckets.distinct

theorem increment_bucket (buckets : Buckets) (windowMs : ℤ) (key : Str) (now : ℤ) :
    (buckets.increment windowMs key now).2=next windowMs now (buckets.get key) := by
  unfold increment next
  cases hbucket : buckets.get key with
  | none => rfl
  | some b =>
    by_cases hlive : now < b.resetAt
    · simp only [live_some.mpr ⟨rfl,hlive⟩,if_pos hlive]
    · simp only [live_over (not_lt.mp hlive),if_neg hlive,Nat.zero_add]

theorem increment_get (buckets : Buckets) (windowMs : ℤ) (key : Str) {now later : ℤ}
    (hlater : now≤later) : live later ((buckets.increment windowMs key now).1.get key')=
      live later (if key'=key then some (next windowMs now (buckets.get key))
        else buckets.get key') := by
  have hkept : ∀ buckets : Buckets,
      live later ((if 10000 < buckets.entries.length then buckets.expire now else buckets).get key')=
        live later (buckets.get key') := by
    intro buckets
    split
    · rw [get_expire,live_later hlater]
    · rfl
  have hset := hkept (buckets.set key (buckets.increment windowMs key now).2)
  rw [get_set] at hset
  rw [← increment_bucket]
  exact hset

end Buckets

/-- The map of a process counts in windows. -/
def memoryStore (options : BasicRateLimitOptions) : Store (windowLength options) Str Buckets where
  view buckets rawKey := buckets.get (storedKey options rawKey)
  step buckets rawKey now := buckets.increment (windowLength options) (storedKey options rawKey) now
  counts buckets rawKey now := buckets.increment_bucket _ _ now
  keeps buckets rawKey now rawKey' later hlater := by
    rw [buckets.increment_get _ _ hlater]
    simp only [storedKey_inj]

theorem upsert_row (table : RateLimitBuckets) (key : Str) (windowMs now : ℤ) :
    (upsert table key (now+windowMs) now).2=next windowMs now (table key) := by
  unfold upsert next
  cases hrow : table key with
  | none => rfl
  | some row =>
    by_cases hlive : now < row.resetAt
    · have hnot : ¬row.resetAt≤now := by omega
      simp only [live_some.mpr ⟨rfl,hlive⟩,if_neg hnot]
    · have hover : row.resetAt≤now := by omega
      simp only [live_over hover,if_pos hover]

/-- The table counts in windows. -/
def databaseStore (options : BasicRateLimitOptions) :
    Store (windowLength options) Str RateLimitBuckets where
  view table rawKey := table (storedKey options rawKey)
  step table rawKey now :=
    upsert table (storedKey options rawKey) (now+windowLength options) now
  counts table rawKey now := upsert_row table _ _ now
  keeps table rawKey now rawKey' later _ := by
    have htable : ∀ key, (upsert table key (now+windowLength options) now).1=
        Function.update table key (some (next (windowLength options) now (table key))) := by
      intro key
      rw [← upsert_row]
      rfl
    rw [htable]
    by_cases hkey : rawKey'=rawKey
    · rw [hkey,if_pos rfl,Function.update_self]
    · rw [if_neg hkey,Function.update_of_ne fun h => hkey (storedKey_inj.mp h)]

end Stores

section Decisions
variable {options : BasicRateLimitOptions} {σ : Type} {w : ℤ}

/-- What is decided of a call that was counted. -/
def decided (options : BasicRateLimitOptions) (counted : Counted Str) : RateLimitDecision :=
  decision (storedKey options counted.key) (getMaxForRateLimitKey counted.key options) counted.bucket

theorem decideAll_run (m : Store w Str σ) (decide : σ → Str → ℤ → σ × RateLimitDecision)
    {calls : List (Str × ℤ)} (h : ∀ s, ∀ c∈calls, decide s c.1 c.2=
      ((m.step s c.1 c.2).1,decided options ⟨c.1,c.2,(m.step s c.1 c.2).2⟩)) (s : σ) :
    decideAll decide s calls=(m.after s calls,(m.run s calls).map (decided options)) := by
  induction calls generalizing s with
  | nil => rfl
  | cons c calls ih =>
    have hrest := ih (fun s d hd => h s d (List.mem_cons_of_mem c hd)) (m.step s c.1 c.2).1
    rw [decideAll,h s c List.mem_cons_self,hrest]
    rfl

theorem decide_memory {rawKey : Str} (h : rawKey≠[]) (buckets : Buckets) (now : ℤ) :
    createRateLimitStore options buckets rawKey now=(((memoryStore options).step buckets rawKey now).1,
      decided options ⟨rawKey,now,((memoryStore options).step buckets rawKey now).2⟩) := by
  unfold createRateLimitStore
  rw [if_neg h]
  rfl

/-- The decisions for calls one after another, from the beginning. -/
def memoryDecisions (options : BasicRateLimitOptions) (calls : List (Str × ℤ)) :
    List RateLimitDecision := (decideAll (createRateLimitStore options) Buckets.empty calls).2

def databaseDecisions (options : BasicRateLimitOptions) (calls : List (Str × ℤ)) :
    List RateLimitDecision := (decideAll (decideStored options) (fun _ => none) calls).2

theorem clocked_of_pairwise {K : Type} {calls : List (K × ℤ)}
    (h : (calls.map (·.2)).Pairwise (·≤·)) : ∃ now, Clocked now calls := by
  cases calls with
  | nil => exact ⟨0,List.pairwise_singleton _ _⟩
  | cons c calls =>
    have hrest := List.pairwise_cons.mp h
    refine ⟨c.2,List.pairwise_cons.mpr ⟨fun t ht => ?_,h⟩⟩
    cases List.mem_cons.mp ht with
    | inl hfirst => exact hfirst.ge
    | inr hlater => exact hrest.1 t hlater

theorem agree_empty (now : ℤ) : Store.Agree (memoryStore options) (databaseStore options) now
    Buckets.empty (fun _ => none) := fun _ => rfl

theorem decisions_agree {calls : List (Str × ℤ)} (hkeys : ∀ c∈calls, c.1≠[])
    (hclock : (calls.map (·.2)).Pairwise (·≤·)) :
    memoryDecisions options calls=databaseDecisions options calls := by
  obtain ⟨now,hnow⟩ := clocked_of_pairwise hclock
  have hmemory := @decideAll_run options Buckets _ (memoryStore options)
    (createRateLimitStore options) calls (fun s c hc => decide_memory (hkeys c hc) s c.2)
    Buckets.empty
  have hdatabase := @decideAll_run options RateLimitBuckets _ (databaseStore options)
    (decideStored options) calls (fun _ _ _ => rfl) (fun _ => none)
  unfold memoryDecisions databaseDecisions
  rw [hmemory,hdatabase,(agree_empty now).run hnow]

theorem stricter_allowed (selected current : RateLimitDecision) :
    (stricter selected current).allowed=(selected.allowed && current.allowed) := by
  unfold stricter
  cases hs : selected.allowed with
  | false =>
    cases hc : current.allowed with
    | false => split_ifs <;> simp_all
    | true => simp [hs]
  | true =>
    cases hc : current.allowed with
    | false => simp [hc]
    | true => split_ifs <;> simp_all

theorem answer_passed {decisions : List RateLimitDecision}
    (h : (answer decisions).isPassed=true) : ∀ d∈decisions, d.allowed=true := by
  have hfold : ∀ (rest : List RateLimitDecision) (first : RateLimitDecision),
      (rest.foldl stricter first).allowed=true → ∀ d∈first::rest, d.allowed=true := by
    intro rest
    induction rest with
    | nil =>
      intro first hfirst d hd
      rw [List.mem_singleton.mp hd]
      exact hfirst
    | cons current rest ih =>
      intro first hallowed d hd
      have hlater := ih (stricter first current) hallowed
      have hboth := hlater _ List.mem_cons_self
      rw [stricter_allowed,Bool.and_eq_true] at hboth
      cases List.mem_cons.mp hd with
      | inl hd => exact hd ▸ hboth.1
      | inr hd =>
        cases List.mem_cons.mp hd with
        | inl hd => exact hd ▸ hboth.2
        | inr hd => exact hlater d (List.mem_cons_of_mem _ hd)
  cases decisions with
  | nil => cases h
  | cons first rest =>
    refine hfold rest first ?_
    unfold answer at h
    simp only [selectMostRestrictiveDecision] at h
    by_contra hrefused
    rw [if_neg hrefused] at h
    cases h

end Decisions

section Logins
variable (env : KeyMaker) (options : BasicRateLimitOptions)

/-- The path that a request is routed by. -/
def routedPath (request : RateLimitRequest) : Str :=
  normalizePath ((request.path.or request.originalUrl).getD request.url)

/-- Whether the router delivers the request to the login handler: in any case, and with a slash at
the end or without. -/
def isDelivered (request : RateLimitRequest) : Bool :=
  (routedPath request).map Char.toLower∈["/api/auth/login".toList,"/api/auth/login/".toList]

/-- The request spells the path as the prefix that is looked for. -/
def IsPlain (request : RateLimitRequest) : Prop :=
  "/api/auth/login".toList.isPrefixOf (routedPath request)=true

instance decidableIsPlain (request : RateLimitRequest) : Decidable (IsPlain request) :=
  inferInstanceAs (Decidable ("/api/auth/login".toList.isPrefixOf (routedPath request)=true))

/-- A login from the address. -/
def isLogin (ip : Str) (visit : Visit) : Bool :=
  isDelivered visit.request &&
    getClientIpAddress visit.request.toClientIpRequestShape options.trustProxyHops=ip

def isPassedLogin (ip : Str) (x : Visit × Handled) : Bool :=
  isLogin options ip x.1 && x.2.outcome.isPassed

/-- The end of the window in which a request was counted for its address. -/
def Handled.window (handled : Handled) : Option ℤ := handled.decisions.head?.map (·.resetAt)

/-- In each window at most so many logins are passed; the windows are of one length and do not
overlap. -/
structure Bounded (ip : Str) (max : ℤ) (served : List (Visit × Handled)) : Prop where
  passes : ∀ e, ((served.countP fun x =>
    isPassedLogin options ip x && x.2.window=some e : ℕ) : ℤ) ≤ max
  contains : ∀ x∈served, isPassedLogin options ip x=true → ∀ e∈x.2.window,
    x.1.ipTime < e ∧ e≤x.1.ipTime+windowLength options
  apart : served.Pairwise fun x y => isPassedLogin options ip x=true →
    isPassedLogin options ip y=true → ∀ e∈x.2.window, ∀ e'∈y.2.window,
      e'=e ∨ e+windowLength options≤e'

/-- The key of the logins of an address. -/
def loginKey (ip : Str) : Str := "auth-login:ip:".toList++ip

variable {env options} {ip : Str} {visit : Visit} {visits : List Visit} {σ : Type} {w : ℤ}

theorem mem_runRounds {ι K : Type} [DecidableEq K] {m : Store w K σ} {calls : ι → List (K × ℤ)}
    {x : ι × List (Counted K)} : ∀ {rounds : List ι} {s : σ}, x∈m.runRounds calls s rounds →
      x.1∈rounds ∧ ∃ s', x.2=m.run s' (calls x.1) := by
  intro rounds
  induction rounds with
  | nil =>
    intro s hx
    cases hx
  | cons i rounds ih =>
    intro s hx
    cases List.mem_cons.mp hx with
    | inl hfirst => exact ⟨hfirst ▸ List.mem_cons_self,s,hfirst ▸ rfl⟩
    | inr hrest => exact ⟨List.mem_cons_of_mem i (ih hrest).1,(ih hrest).2⟩

theorem calls_head (hlogin : isLogin options ip visit=true) (hplain : IsPlain visit.request) :
    ∃ rest, visit.calls env options=(loginKey ip,visit.ipTime)::rest := by
  have hip := of_decide_eq_true (Bool.and_eq_true_iff.mp hlogin).2
  have hbucket : getRouteBucket visit.request="auth-login".toList := if_pos (Or.inl hplain)
  have hhead := @head_keys env visit.request options.trustProxyHops
  rw [hbucket,hip] at hhead
  obtain ⟨keys,hkeys⟩ := List.head?_eq_some_iff.mp hhead
  unfold Visit.calls Visit.keys
  rw [hkeys]
  exact ⟨_,rfl⟩

theorem max_login (settings : RateLimitSettings) :
    getMaxForRateLimitKey (loginKey ip) settings.options=settings.authLoginMax := by
  have hbucket : (loginKey ip).takeWhile (·≠ ':')="auth-login".toList := by
    unfold loginKey
    have hsplit : "auth-login:ip:".toList++ip="auth-login".toList++ ':'::("ip:".toList++ip) := rfl
    rw [hsplit]
    exact Separators.takeWhile_before (by decide)
  have hchecked := settings.authLoginMax_checked
  unfold getMaxForRateLimitKey
  rw [hbucket,if_pos rfl]
  simp only [RateLimitSettings.options,Option.getD_some]
  unfold clampInteger
  omega

/-- A middleware that decides by a store that counts in windows, and hands a login on only if it is
counted first of all and every decision allows it, keeps the bound. -/
theorem bounded_serve (settings : RateLimitSettings) (m : Store (windowLength settings.options) Str σ)
    (calls : Visit → List (Str × ℤ)) (conclude : Visit → List RateLimitDecision → Outcome)
    (handle : σ → Visit → σ × Handled) (s : σ) {now : ℤ}
    (hhandle : ∀ s v, handle s v=(m.after s (calls v),
      ⟨(m.run s (calls v)).map (decided settings.options),
        conclude v ((m.run s (calls v)).map (decided settings.options))⟩))
    (hstart : ∀ k, m.view s k=none) (hclock : Clocked now (visits.flatMap calls))
    (hpassed : ∀ v∈visits, isLogin settings.options ip v=true → ∀ decisions,
      (conclude v decisions).isPassed=true →
        (∃ rest, calls v=(loginKey ip,v.ipTime)::rest) ∧ ∀ d∈decisions, d.allowed=true) :
    Bounded settings.options ip settings.authLoginMax (serve handle s visits) := by
  have hpos := windowLength_pos settings.options
  let finish := fun x : Visit × List (Counted Str) => (x.1,(⟨x.2.map (decided settings.options),
    conclude x.1 (x.2.map (decided settings.options))⟩ : Handled))
  have hserve : ∀ (visits : List Visit) (s : σ),
      serve handle s visits=(m.runRounds calls s visits).map finish := by
    intro visits
    induction visits with
    | nil => exact fun _ => rfl
    | cons v visits ih =>
      intro s
      rw [serve,hhandle,ih]
      rfl
  -- a login that is passed has its counted call first
  have hcounted : ∀ x∈m.runRounds calls s visits,
      isPassedLogin settings.options ip (finish x)=true → ∃ y∈x.2, y.key=loginKey ip ∧
        y.time=x.1.ipTime ∧ (finish x).2.window=some y.bucket.resetAt ∧
        y.bucket.count ≤ settings.authLoginMax.toNat := by
    intro x hx hp
    have hboth := Bool.and_eq_true_iff.mp hp
    obtain ⟨hmem,s',hrun⟩ := mem_runRounds hx
    obtain ⟨⟨rest,hcalls⟩,hallowed⟩ := hpassed x.1 hmem hboth.1 _ hboth.2
    rw [hcalls,Store.run] at hrun
    have hfirst : (finish x).2.window=
        some (m.step s' (loginKey ip) x.1.ipTime).2.resetAt := by
      unfold Handled.window
      rw [show (finish x).2.decisions=x.2.map (decided settings.options) from rfl,hrun]
      rfl
    have hin := hallowed _ (List.mem_map_of_mem (hrun ▸ List.mem_cons_self))
    have hcount : ((m.step s' (loginKey ip) x.1.ipTime).2.count : ℤ)≤
        getMaxForRateLimitKey (loginKey ip) settings.options := of_decide_eq_true hin
    rw [max_login] at hcount
    exact ⟨_,hrun ▸ List.mem_cons_self,rfl,rfl,hfirst,by simp only; omega⟩
  have hflat := @Store.runRounds_flatten _ _ _ _ m s _ calls visits
  rw [hserve]
  constructor
  · intro e
    have hrounds := Store.countP_rounds
      (fun x => isPassedLogin settings.options ip (finish x) && (finish x).2.window=some e)
      settings.authLoginMax.toNat (loginKey ip) e (m.runRounds calls s visits) (by
        intro x hx hp
        have hboth := Bool.and_eq_true_iff.mp hp
        obtain ⟨y,hy,hkey,_,hwindow,hcount⟩ := hcounted x hx hboth.1
        have hsame := of_decide_eq_true hboth.2
        rw [hwindow] at hsame
        exact ⟨y,hy,hkey,Option.some.inj hsame,hcount⟩)
    have hwithin := (@Store.within_run _ _ _ _ _ m s _ hpos settings.authLoginMax.toNat
      (loginKey ip) hclock).2.1 e
    have hchecked := settings.authLoginMax_checked
    rw [hflat] at hrounds
    have hcount : (((m.runRounds calls s visits).countP fun x =>
        isPassedLogin settings.options ip (finish x) && (finish x).2.window=some e : ℕ) : ℤ)≤
        settings.authLoginMax := by omega
    rw [List.countP_map]
    exact hcount
  · intro x hx hp e he
    obtain ⟨r,hr,rfl⟩ := List.mem_map.mp hx
    obtain ⟨y,hy,_,htime,hwindow,_⟩ := hcounted r hr hp
    have hall := @Store.run_open _ now _ _ _ m s _ hpos (fun k b hb => by
      rw [hstart] at hb
      cases hb) hclock
    rw [← hflat] at hall
    have hopen := hall y (List.mem_flatMap.mpr ⟨r,hr,hy⟩)
    rw [hwindow] at he
    cases he
    rw [htime] at hopen
    exact hopen
  · have hapart := @Store.run_apart _ _ _ _ _ m s _ hpos hclock
    rw [← hflat] at hapart
    have hrounds := (List.pairwise_flatMap.mp hapart).2
    refine List.pairwise_map.mpr (hrounds.imp_of_mem fun {x y} hx hy hxy hpx hpy e he e' he' => ?_)
    obtain ⟨a,ha,hakey,_,hawindow,_⟩ := hcounted x hx hpx
    obtain ⟨b,hb,hbkey,_,hbwindow,_⟩ := hcounted y hy hpy
    rw [hawindow] at he
    rw [hbwindow] at he'
    cases he
    cases he'
    exact hxy a ha b hb (hakey.trans hbkey.symm)

theorem times_clocked {calls : Visit → List (Str × ℤ)}
    (hcalls : ∀ v, ((calls v).map (·.2)).Sublist v.times)
    (hclock : (visits.flatMap Visit.times).Pairwise (·≤·)) :
    ∃ now, Clocked now (visits.flatMap calls) := by
  have hsub : ∀ visits : List Visit,
      ((visits.flatMap calls).map (·.2)).Sublist (visits.flatMap Visit.times) := by
    intro visits
    induction visits with
    | nil => exact List.Sublist.refl _
    | cons v visits ih =>
      rw [List.flatMap_cons,List.flatMap_cons,List.map_append]
      exact (hcalls v).append ih
  exact clocked_of_pairwise (hclock.sublist (hsub visits))

theorem zip_sublist {α β : Type} (l : List α) (l' : List β) :
    ((l.zip l').map (·.1)).Sublist l ∧ ((l.zip l').map (·.2)).Sublist l' := by
  induction l generalizing l' with
  | nil => exact ⟨List.Sublist.refl _,List.nil_sublist _⟩
  | cons a l ih =>
    cases l' with
    | nil => exact ⟨List.nil_sublist _,List.Sublist.refl _⟩
    | cons b l' => exact ⟨(ih l').1.cons_cons a,(ih l').2.cons_cons b⟩

theorem calls_times (v : Visit) : ((v.calls env options).map (·.2)).Sublist v.times := by
  exact (zip_sublist _ _).2

theorem stored_times (v : Visit) : ((v.storedCalls env options).map (·.2)).Sublist v.times := by
  have hsub : (v.storedCalls env options).Sublist (v.calls env options) := by
    exact (List.filter_sublist.map _).trans (zip_sublist _ _).1
  exact (hsub.map _).trans (calls_times v)

theorem calls_length (v : Visit) : (v.calls env options).length≤2 := by
  unfold Visit.calls
  rw [List.length_zip]
  exact Nat.min_le_right _ _

theorem storedCalls_eq {v : Visit} (h : v.isStored env options=true) :
    v.storedCalls env options=v.calls env options := by
  unfold Visit.storedCalls
  have hall : ((v.calls env options).zip [v.ipStored,v.accountStored]).filter (·.2)=
      (v.calls env options).zip [v.ipStored,v.accountStored] :=
    List.filter_eq_self.mpr (List.all_eq_true.mp h)
  rw [hall]
  exact List.map_fst_zip (calls_length v)

theorem key_ne_nil (request : RateLimitRequest) (hops : Option ℤ) :
    ∀ key∈buildRateLimitKeys env request hops, key≠[] := by
  intro key hkey
  have hmem := List.mem_eraseDups.mp hkey
  cases List.mem_cons.mp hmem with
  | inl hip =>
    rw [hip]
    simp
  | inr haccount =>
    split_ifs at haccount
    · cases hlogin : readLoginIdentifier env request.body with
      | none =>
        rw [hlogin] at haccount
        cases haccount
      | some identifier =>
        rw [hlogin] at haccount
        simp only [Option.map_some,Option.toList_some,List.mem_singleton] at haccount
        rw [haccount]
        simp
    · cases haccount

/-- Both stores decide the same calls alike, and both middlewares pass at most `authLoginMax` logins
of an address in a window, whatever else is requested, where the logins spell the path as it is
looked for; with the database, where it does not fail or the middleware does not fail open. -/
theorem login_limit_binds (env : KeyMaker) (settings : RateLimitSettings) :
    (∀ calls : List (Str × ℤ), (∀ c∈calls, c.1≠[]) → (calls.map (·.2)).Pairwise (·≤·) →
      memoryDecisions settings.options calls=databaseDecisions settings.options calls) ∧
    ∀ (ip : Str) (visits : List Visit), (visits.flatMap Visit.times).Pairwise (·≤·) →
      (∀ v∈visits, isLogin settings.options ip v=true → IsPlain v.request) →
      Bounded settings.options ip settings.authLoginMax
        (serve (createBasicRateLimitMiddleware env settings.options) Buckets.empty visits) ∧
      ∀ failOpen, (∀ v∈visits, isLogin settings.options ip v=true →
          failOpen=false ∨ v.isStored env settings.options=true) →
        Bounded settings.options ip settings.authLoginMax
          (serve (createDistributedRateLimitMiddleware env settings.options failOpen)
            (fun _ => none) visits) := by
  refine ⟨fun calls hkeys hclock => decisions_agree hkeys hclock,
    fun ip visits hclock hplain => ⟨?_,fun failOpen hstored => ?_⟩⟩
  · obtain ⟨now,hnow⟩ := @times_clocked visits (Visit.calls env settings.options) calls_times hclock
    refine bounded_serve settings (memoryStore settings.options) (Visit.calls env settings.options)
      (fun _ decisions => answer decisions) _ Buckets.empty ?_ (fun _ => rfl) hnow ?_
    · intro s v
      have hkeys : ∀ c∈v.calls env settings.options, c.1≠[] := fun c hc =>
        key_ne_nil v.request _ c.1 (List.of_mem_zip hc).1
      have hdecide := decideAll_run (memoryStore settings.options)
        (createRateLimitStore settings.options) (fun s c hc => decide_memory (hkeys c hc) s c.2) s
      unfold createBasicRateLimitMiddleware
      rw [hdecide]
    · intro v hv hlogin decisions hpassed
      exact ⟨calls_head hlogin (hplain v hv hlogin),answer_passed hpassed⟩
  · obtain ⟨now,hnow⟩ :=
      @times_clocked visits (Visit.storedCalls env settings.options) stored_times hclock
    refine bounded_serve settings (databaseStore settings.options)
      (Visit.storedCalls env settings.options)
      (fun v decisions => if v.isStored env settings.options then answer decisions
        else if failOpen then .passed none else .failed) _ (fun _ => none) ?_ (fun _ => rfl) hnow ?_
    · intro s v
      have hdecide := @decideAll_run settings.options _ _ (databaseStore settings.options)
        (decideStored settings.options) (v.storedCalls env settings.options) (fun _ _ _ => rfl) s
      unfold createDistributedRateLimitMiddleware
      rw [hdecide]
    · intro v hv hlogin decisions hpassed
      by_cases hall : v.isStored env settings.options=true
      · rw [if_pos hall] at hpassed
        rw [storedCalls_eq hall]
        exact ⟨calls_head hlogin (hplain v hv hlogin),answer_passed hpassed⟩
      · cases hstored v hv hlogin with
        | inl hclosed =>
          rw [if_neg hall,hclosed] at hpassed
          cases hpassed
        | inr hfine => exact absurd hfine hall

end Logins

def sampleSettings : RateLimitSettings where
  windowMs := 60000
  max := 600
  authLoginMax := 1
  authRefreshMax := 120
  webhookMax := 600
  trustProxyHops := 0
  windowMs_checked := by decide
  max_checked := by decide
  authLoginMax_checked := by decide
  authRefreshMax_checked := by decide
  webhookMax_checked := by decide
  trustProxyHops_checked := by decide

def sampleVisit (path : String) (time : ℤ) : Visit where
  request := { demoRequest with path := some path.toList }
  ipTime := time
  accountTime := time
  ipStored := true
  accountStored := true

theorem login_limit_binds_demo : Bounded sampleSettings.options "10.0.0.2".toList
    sampleSettings.authLoginMax (serve (createBasicRateLimitMiddleware demoKeys sampleSettings.options)
      Buckets.empty [sampleVisit "/api/auth/login" 0,sampleVisit "/api/auth/login/" 5]) :=
  ((login_limit_binds demoKeys sampleSettings).2 "10.0.0.2".toList
    [sampleVisit "/api/auth/login" 0,sampleVisit "/api/auth/login/" 5] (by decide)
    (by decide +kernel)).1

/-- Two logins with the path in capitals are both passed in one window. -/
theorem capitals_unbound : ¬Bounded sampleSettings.options "10.0.0.2".toList
    sampleSettings.authLoginMax (serve (createBasicRateLimitMiddleware demoKeys sampleSettings.options)
      Buckets.empty [sampleVisit "/API/AUTH/LOGIN" 0,sampleVisit "/API/AUTH/LOGIN" 5]) := by
  intro h
  have hpasses := h.passes 60000
  revert hpasses
  decide +kernel

end AardvarkWms.RateLimiting
