import AardvarkWms.Texts
import Mathlib.Data.List.Infix

/-! The address a request is counted under, behind proxies that each append the address of their
peer: `src/common/request-ip.helpers.ts`, and the keys of `src/common/rate-limit.middleware.ts`. -/
namespace AardvarkWms.ClientAddress

open Messaging (Str trim)

inductive Header
  | single (value : Str)
  | many (values : List Str)

structure ClientIpRequestShape where
  headers : String → Option Header
  ip : Option Str
  remoteAddress : Option Str

/-- An address without the prefix of IPv4 within IPv6. -/
def normalizeIp (value : Option Str) : Option Str :=
  match value.map trim with
  | none => none
  | some [] => none
  | some trimmed =>
    if "::ffff:".toList.isPrefixOf trimmed then some (trimmed.drop "::ffff:".length)
    else some trimmed

def readHeader (headers : String → Option Header) (key : String) : Option Str :=
  match (headers key).or (headers (key.map Char.toLower)) with
  | some (.many values) => values.head?
  | some (.single value) => some value
  | none => none

/-- The parts of the header that are not empty. -/
def parseForwardedFor (value : Option Str) : List Str :=
  match value with
  | none => []
  | some value =>
    (value.splitOn ',').filterMap fun part => (normalizeIp (some part)).filter (·≠[])

def selectForwardedClientIp (chain : List Str) (trustProxyHops : ℕ) : Option Str :=
  if chain=[] ∨ trustProxyHops=0 then none else chain[chain.length-trustProxyHops-1]?

def clampTrustProxyHops (value : ℤ) : ℕ := (min 10 (max 0 value)).toNat

def getClientIpAddress (request : ClientIpRequestShape) (trustProxyHops : Option ℤ) : Str :=
  let hops := clampTrustProxyHops (trustProxyHops.getD 0)
  let forwardedChain :=
    if 0 < hops then parseForwardedFor (readHeader request.headers "x-forwarded-for") else []
  (((selectForwardedClientIp forwardedChain hops).or (normalizeIp request.ip)).or
    (normalizeIp request.remoteAddress)).getD "unknown".toList

section Keys

structure RateLimitRequest extends ClientIpRequestShape where
  body : Option Json
  path : Option Str
  originalUrl : Option Str
  url : Str

/-- What the keys are made with: lower case, and a digest of an account. -/
structure KeyMaker where
  lang : Language
  hashRateLimitIdentity : Str → Str

variable (env : KeyMaker)

def normalizePath (path : Str) : Str := path.takeWhile (·≠ '?')

def getRouteBucket (request : RateLimitRequest) : Str :=
  let path := normalizePath ((request.path.or request.originalUrl).getD request.url)
  if "/api/auth/login".toList.isPrefixOf path ∨ "/auth/login".toList.isPrefixOf path then
    "auth-login".toList
  else if "/api/auth/refresh".toList.isPrefixOf path ∨ "/auth/refresh".toList.isPrefixOf path then
    "auth-refresh".toList
  else if "/webhooks/".toList <:+: path then "webhook".toList
  else "api".toList

/-- A name as it is counted: its first 320 code units, in lower case. -/
def loginName (value : Json) : Option Str :=
  match value with
  | .string s =>
    if trim s.toList=[] then none
    else some (ofCodeUnits ((codeUnits (env.lang.toLowerCase (trim s.toList))).take 320))
  | _ => none

def readLoginIdentifier (body : Option Json) : Option Str :=
  match body with
  | some (.object fields) => ["email","username","userName","login"].findSome? fun key =>
    (Json.Fields.get? fields key).bind (loginName env)
  | _ => none

def buildRateLimitKeys (request : RateLimitRequest) (trustProxyHops : Option ℤ) : List Str :=
  let ip := getClientIpAddress request.toClientIpRequestShape trustProxyHops
  let routeBucket := getRouteBucket request
  let account :=
    if routeBucket="auth-login".toList then
      (readLoginIdentifier env request.body).map fun loginIdentifier =>
        routeBucket++":account:".toList++env.hashRateLimitIdentity loginIdentifier
    else none
  ((routeBucket++":ip:".toList++ip)::account.toList).eraseDups

end Keys

/-- A peer's address: one part of the header, which is not empty. -/
structure Address where
  text : Str
  single : ','∉text
  solid : (normalizeIp (some text)).filter (·≠[])≠none

/-- The address as it is counted. -/
def Address.ip (a : Address) : Str := (normalizeIp (some a.text)).getD []

/-- A proxy appends the address of its peer. -/
def appendPeer (header : Option Str) (peer : Address) : Option Str :=
  match header with
  | none => some peer.text
  | some value => some (value++", ".toList++peer.text)

/-- The request behind proxies that saw these peers, the first the client, which sent `claimed`. -/
def RateLimitRequest.via (r : RateLimitRequest) (claimed : Option Str) (peers : List Address) :
    RateLimitRequest :=
  {r with
    headers := Function.update r.headers "x-forwarded-for"
      ((peers.foldl appendPeer claimed).map Header.single)}

/-- What the client sent has no address in it, or ends with its own. -/
def Harmless (claimed : Option Str) (client : Address) : Prop :=
  ∀ last∈(parseForwardedFor claimed).getLast?, last=client.ip

section Forwarding
variable {env : KeyMaker}

theorem trim_space (s : Str) : trim (' '::s)=trim s := by
  have hspace : Messaging.isWhiteSpace ' '=true := by decide
  simp [trim,hspace]

theorem Address.normalized (a : Address) :
    (normalizeIp (some a.text)).filter (·≠[])=some a.ip := by
  have hsolid := a.solid
  unfold Address.ip
  cases hip : normalizeIp (some a.text) with
  | none =>
    rw [hip] at hsolid
    exact absurd rfl hsolid
  | some shown =>
    rw [hip] at hsolid
    by_cases hshown : shown=[]
    · rw [hshown] at hsolid
      exact absurd rfl hsolid
    · simp [Option.filter,hshown]

theorem Address.normalized_space (a : Address) :
    (normalizeIp (some (' '::a.text))).filter (·≠[])=some a.ip := by
  have hsame : normalizeIp (some (' '::a.text))=normalizeIp (some a.text) := by
    unfold normalizeIp
    rw [Option.map_some,Option.map_some,trim_space]
  rw [hsame,a.normalized]

theorem parse_appendPeer (header : Option Str) (peer : Address) :
    parseForwardedFor (appendPeer header peer)=parseForwardedFor header++[peer.ip] := by
  have hone : peer.text.splitOn ','=[peer.text] := List.splitOn_eq_singleton peer.single
  cases header with
  | none =>
    simp only [appendPeer,parseForwardedFor,hone,List.filterMap_cons,peer.normalized,
      List.filterMap_nil,List.nil_append]
  | some value =>
    have hspace : ','∉ ' '::peer.text := by
      have hsingle := peer.single
      simpa using hsingle
    have happend : value++", ".toList++peer.text=value++ ',':: ' '::peer.text := by simp
    simp only [appendPeer,parseForwardedFor]
    rw [happend,List.splitOn_append_cons_self,List.splitOn_eq_singleton hspace,
      List.filterMap_append,List.filterMap_cons,peer.normalized_space]
    rfl

theorem parse_foldl (peers : List Address) : ∀ header,
    parseForwardedFor (peers.foldl appendPeer header)=
      parseForwardedFor header++peers.map Address.ip := by
  induction peers with
  | nil => simp
  | cons peer peers ih =>
    intro header
    rw [List.foldl_cons,ih,parse_appendPeer,List.map_cons,List.append_assoc]
    rfl

theorem select_chain (claimed : List Str) (client : Str) (inner : List Str) :
    selectForwardedClientIp (claimed++client::inner) (inner.length+1)=
      some (claimed.getLast?.getD client) := by
  have hne : claimed++client::inner≠[] := by simp
  unfold selectForwardedClientIp
  rw [if_neg (by simp [hne])]
  cases hlast : claimed.getLast? with
  | none =>
    have hnil : claimed=[] := List.getLast?_eq_none_iff.mp hlast
    subst hnil
    simp
  | some last =>
    obtain ⟨before,hbefore⟩ := List.getLast?_eq_some_iff.mp hlast
    subst hbefore
    have hindex : ((before++[last])++client::inner).length-(inner.length+1)-1=before.length := by
      simp only [List.length_append,List.length_cons,List.length_nil]
      omega
    rw [hindex,List.append_assoc,List.getElem?_append_right (le_refl _)]
    simp

theorem address_via (r : RateLimitRequest) (claimed : Option Str) (client : Address)
    (inner : List Address) (h : inner.length+1≤10) :
    getClientIpAddress (r.via claimed (client::inner)).toClientIpRequestShape
      (some (inner.length+1))=(parseForwardedFor claimed).getLast?.getD client.ip := by
  have hhops : clampTrustProxyHops ((some ((inner.length : ℤ)+1)).getD 0)=
      (inner.map Address.ip).length+1 := by
    rw [Option.getD_some,List.length_map]
    unfold clampTrustProxyHops
    omega
  have hread : readHeader (r.via claimed (client::inner)).headers "x-forwarded-for"=
      (client::inner).foldl appendPeer claimed := by
    have hheaders : (r.via claimed (client::inner)).headers "x-forwarded-for"=
        ((client::inner).foldl appendPeer claimed).map Header.single := by
      simp [RateLimitRequest.via]
    unfold readHeader
    rw [hheaders]
    cases hheader : (client::inner).foldl appendPeer claimed with
    | none =>
      -- the client's address was appended
      have hparse := parse_foldl (client::inner) claimed
      rw [hheader] at hparse
      simp [parseForwardedFor] at hparse
    | some value => rfl
  unfold getClientIpAddress
  rw [hhops]
  simp only [Nat.succ_pos,if_true]
  rw [hread,parse_foldl,List.map_cons,select_chain]
  rfl

theorem head_keys (r : RateLimitRequest) (hops : Option ℤ) :
    (buildRateLimitKeys env r hops).head?=some (getRouteBucket r++":ip:".toList++
      getClientIpAddress r.toClientIpRequestShape hops) := by
  unfold buildRateLimitKeys
  simp only [List.eraseDups_cons,List.head?_cons]

theorem keys_via (r : RateLimitRequest) {claimed claimed' : Option Str} {peers : List Address}
    {hops : Option ℤ}
    (h : getClientIpAddress (r.via claimed peers).toClientIpRequestShape hops=
      getClientIpAddress (r.via claimed' peers).toClientIpRequestShape hops) :
    buildRateLimitKeys env (r.via claimed peers) hops=
      buildRateLimitKeys env (r.via claimed' peers) hops := by
  unfold buildRateLimitKeys
  rw [h]
  rfl

end Forwarding

/-- Behind `inner.length+1` trusted proxies, as many as are configured, the client is counted under
the address that the outermost proxy saw, and under the same keys as if it had sent no header, if
and only if what it sent has no address or ends with this one. -/
theorem address_unspoofed_iff (env : KeyMaker) (r : RateLimitRequest) (claimed : Option Str)
    (client : Address) (inner : List Address) (h : inner.length+1≤10) :
    (getClientIpAddress (r.via claimed (client::inner)).toClientIpRequestShape
        (some (inner.length+1))=client.ip ∧
      buildRateLimitKeys env (r.via claimed (client::inner)) (some (inner.length+1))=
        buildRateLimitKeys env (r.via none (client::inner)) (some (inner.length+1))) ↔
      Harmless claimed client := by
  have haddress := address_via r claimed client inner h
  have hnone := address_via r none client inner h
  have hharmless : (parseForwardedFor claimed).getLast?.getD client.ip=client.ip ↔
      Harmless claimed client := by
    unfold Harmless
    cases (parseForwardedFor claimed).getLast? with
    | none => simp
    | some last => simp
  rw [← hharmless,haddress]
  constructor
  · exact fun hboth => hboth.1
  · intro hsame
    refine ⟨hsame,keys_via r ?_⟩
    rw [haddress,hnone,hsame]
    rfl

def demoKeys : KeyMaker := ⟨Language.ascii,id⟩

def demoRequest : RateLimitRequest where
  headers := fun _ => none
  ip := none
  remoteAddress := some "10.0.0.2".toList
  body := none
  path := some "/api/auth/login".toList
  originalUrl := none
  url := "/api/auth/login".toList

def demoClient : Address := ⟨"203.0.113.7".toList,by decide,by decide⟩

theorem address_unspoofed_demo :
    (getClientIpAddress (demoRequest.via none [demoClient]).toClientIpRequestShape (some 1)=
        demoClient.ip ∧
      buildRateLimitKeys demoKeys (demoRequest.via none [demoClient]) (some 1)=
        buildRateLimitKeys demoKeys (demoRequest.via none [demoClient]) (some 1)) ↔
      Harmless none demoClient :=
  address_unspoofed_iff demoKeys demoRequest none demoClient [] (by decide)

/-- Behind one trusted proxy the address is the one the client names. -/
theorem address_spoofed :
    getClientIpAddress (demoRequest.via (some "198.51.100.9".toList)
      [demoClient]).toClientIpRequestShape (some 1)≠demoClient.ip := by
  decide

end AardvarkWms.ClientAddress
