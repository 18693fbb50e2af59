import AardvarkWms.Histories
import AardvarkWms.OrderUpdates
import AardvarkWms.OutboxDispatch

/-! An outbox event sent to the integration endpoints that take it, attempt after attempt:
`src/integrations/integration-dispatch.service.ts` under `dispatchPending`. -/
namespace AardvarkWms.IntegrationDispatch

open Messaging

inductive IntegrationStatus
  | ACTIVE | INACTIVE | ERROR
  deriving DecidableEq

structure IntegrationRouteConfig where
  eventType : Option Str := none
  eventTypes : List Str := []
  path : Option Str := none
  method : Option Str := none
  deriving DecidableEq

structure IntegrationEndpointConfig where
  path : Option Str := none
  method : Option Str := none
  eventTypes : List Str := []
  routes : List IntegrationRouteConfig := []
  deriving DecidableEq

structure IntegrationEndpoint where
  id : ℕ
  code : Str
  type : Str
  baseUrl : Str
  status : IntegrationStatus
  config : IntegrationEndpointConfig
  deriving DecidableEq

/-- What comes of a delivery: an answer, an error after the request went out, or an error before, as
the endpoint's url is not allowed or its own circuit is open. -/
inductive Answer
  | responded (statusCode : ℕ) (responseBody : Str)
  | threw (message : Str)
  | blocked (message : Str)
  deriving DecidableEq

structure HttpIntegrationDeliveryResult where
  endpointId : ℕ
  endpointCode : Str
  eventType : Str
  url : Str
  method : Str
  statusCode : ℕ
  success : Bool
  responseBody : Str
  deriving DecidableEq

structure IntegrationDispatchLog where
  endpointId : ℕ
  outboxEventId : ℕ
  eventType : Str
  destinationUrl : Str
  requestMethod : Str
  statusCode : Option ℕ
  success : Bool
  attempts : ℕ
  errorMessage : Option Str
  responseBody : Option Str
  deriving DecidableEq

/-- What `recordDeadLetter` is called with. -/
structure DeadLetterInput where
  endpointId : Option ℕ
  outboxEventId : Option ℕ
  inboxEventId : Option ℕ
  eventType : Str
  resourceType : Option Str
  resourceId : Option Str
  errorMessage : Str
  attempts : ℕ
  payload : Json
  deriving DecidableEq

/-- A request that went out, and whether it was answered with success. -/
structure Request where
  endpointId : ℕ
  url : Str
  method : Str
  payload : Json
  success : Bool
  deriving DecidableEq

section Config
variable (runtime : OrderUpdates.Runtime)

def routeMatchesEvent (route : IntegrationRouteConfig) (eventType : Str) : Bool :=
  let normalized := runtime.toUpperCase (trim eventType)
  (route.eventType.map fun t => runtime.toUpperCase (trim t)).any (fun t => t≠[] && t=normalized) ||
    route.eventTypes.any fun candidate => runtime.toUpperCase (trim candidate)=normalized

def endpointAcceptsEvent (config : IntegrationEndpointConfig) (eventType : Str) : Bool :=
  let normalized := runtime.toUpperCase (trim eventType)
  config.eventTypes.any (fun candidate => runtime.toUpperCase (trim candidate)=normalized) ||
    config.routes.any fun route => routeMatchesEvent runtime route normalized

def routeForEvent (config : IntegrationEndpointConfig) (eventType : Str) :
    Option IntegrationRouteConfig :=
  config.routes.find? fun route => routeMatchesEvent runtime route eventType

def isAbsolute (path : Str) : Bool :=
  "http://".toList<+:path.map Char.toLower || "https://".toList<+:path.map Char.toLower

def joinIntegrationUrl (baseUrl path : Str) : Str :=
  let normalizedBaseUrl := ((trim baseUrl).reverse.dropWhile (· = '/')).reverse
  let normalizedPath := trim path
  if normalizedPath=[] then normalizedBaseUrl
  else if isAbsolute normalizedPath then normalizedPath
  else normalizedBaseUrl++ '/'::normalizedPath.dropWhile (· = '/')

def normalizeIntegrationMethod (value : Option Str) : Str :=
  let method := runtime.toUpperCase (trim (value.getD []))
  if method∈["POST".toList,"PUT".toList,"PATCH".toList] then method else "POST".toList

/-- The active endpoints, which stand in the order of their codes, that take the event; those of
the types ERP and CARRIER take any. -/
def findActiveEndpointsForEvent (endpoints : Table IntegrationEndpoint.id) (eventType : Str) :
    List IntegrationEndpoint :=
  endpoints.rows.filter fun endpoint => endpoint.status=.ACTIVE &&
    (endpointAcceptsEvent runtime endpoint.config eventType ||
      runtime.toUpperCase (trim endpoint.type)∈["ERP".toList,"CARRIER".toList])

end Config

/-- One attempt: when, how it is asked for, what the endpoints answer and whose failures can be
recorded. -/
structure Attempt where
  now : ℕ
  finished : ℕ
  input : DispatchOutboxEventsInput
  answer : IntegrationEndpoint → Answer
  records : IntegrationEndpoint → Bool

def Answer.ok : Answer → Bool
  | .responded statusCode _ => 200≤ statusCode && statusCode≤299
  | _ => false

def Answer.isBlocked : Answer → Bool
  | .blocked _ => true
  | _ => false

/-- What a dispatch has done so far. -/
structure Progress where
  tried : List ℕ := []
  requests : List Request := []
  results : List HttpIntegrationDeliveryResult := []
  errors : List Str := []
  logs : List IntegrationDispatchLog := []
  deadLetters : List DeadLetterInput := []

section Dispatch
variable (runtime : OrderUpdates.Runtime) (a : Attempt) (event : OutboxEventRecord)

def requestUrl (endpoint : IntegrationEndpoint) : Str :=
  let route := routeForEvent runtime endpoint.config event.type
  joinIntegrationUrl endpoint.baseUrl (((route.bind (·.path)).orElse fun _ =>
    endpoint.config.path).getD "/events/wms".toList)

def requestMethod (endpoint : IntegrationEndpoint) : Str :=
  let route := routeForEvent runtime endpoint.config event.type
  normalizeIntegrationMethod runtime ((route.bind (·.method)).orElse fun _ => endpoint.config.method)

/-- The request to an endpoint, where one goes out. -/
def requestTo (endpoint : IntegrationEndpoint) : Option Request :=
  if (a.answer endpoint).isBlocked then none
  else some
    { endpointId := endpoint.id
      url := requestUrl runtime event endpoint
      method := requestMethod runtime event endpoint
      payload := requestPayload event
      success := (a.answer endpoint).ok }

def deliverHttpIntegrationEvent (endpoint : IntegrationEndpoint) :
    Except Str HttpIntegrationDeliveryResult :=
  match a.answer endpoint with
  | .threw message | .blocked message => .error message
  | .responded statusCode responseBody => .ok
    { endpointId := endpoint.id
      endpointCode := endpoint.code
      eventType := event.type
      url := requestUrl runtime event endpoint
      method := requestMethod runtime event endpoint
      statusCode
      success := (a.answer endpoint).ok
      responseBody := responseBody.take 4000 }

def dispatchLog (endpoint : IntegrationEndpoint) (result : HttpIntegrationDeliveryResult) :
    IntegrationDispatchLog where
  endpointId := endpoint.id
  outboxEventId := event.id
  eventType := event.type
  destinationUrl := result.url
  requestMethod := result.method
  statusCode := some result.statusCode
  success := result.success
  attempts := event.attempts+1
  errorMessage := if result.success then none
    else some ("HTTP ".toList++(toString result.statusCode).toList)
  responseBody := some result.responseBody

def failureLog (endpoint : IntegrationEndpoint) (message : Str) : IntegrationDispatchLog where
  endpointId := endpoint.id
  outboxEventId := event.id
  eventType := event.type
  destinationUrl := endpoint.baseUrl
  requestMethod := "POST".toList
  statusCode := none
  success := false
  attempts := event.attempts+1
  errorMessage := some (message.take 4000)
  responseBody := none

def deadLetter (endpoint : IntegrationEndpoint) (message : Str) : DeadLetterInput where
  endpointId := some endpoint.id
  outboxEventId := some event.id
  inboxEventId := none
  eventType := event.type
  resourceType := none
  resourceId := none
  errorMessage := message
  attempts := event.attempts+1
  payload := event.payload

/-- What the database says where a dead letter cannot be recorded. -/
def storeError : Str := "Integration dead letter was not recorded".toList

/-- The `catch` of an endpoint's turn. -/
def caught (endpoint : IntegrationEndpoint) (message : Str) (p : Progress) : Progress :=
  {p with
    errors := p.errors++[endpoint.code++ ':':: ' '::message]
    logs := p.logs++[failureLog event endpoint message]
    deadLetters := if a.records endpoint then p.deadLetters++[deadLetter event endpoint message]
      else p.deadLetters}

/-- One endpoint's turn. A dead letter that cannot be recorded is caught, and is then tried once
more. -/
def visit (p : Progress) (endpoint : IntegrationEndpoint) : Progress :=
  let p := {p with
    tried := p.tried++[endpoint.id]
    requests := p.requests++(requestTo runtime a event endpoint).toList}
  match deliverHttpIntegrationEvent runtime a event endpoint with
  | .error message => caught a event endpoint message p
  | .ok result =>
    let p := {p with
      results := p.results++[result]
      logs := p.logs++[dispatchLog event endpoint result]}
    if result.success then p
    else
      let message := endpoint.code++" returned HTTP ".toList++(toString result.statusCode).toList
      let p := {p with errors := p.errors++[message]}
      if a.records endpoint then
        {p with deadLetters := p.deadLetters++[deadLetter event endpoint message]}
      else caught a event endpoint storeError p

/-- The endpoint fails and the failure cannot be recorded: the error leaves the loop. -/
def Attempt.stops (endpoint : IntegrationEndpoint) : Bool :=
  !(a.answer endpoint).ok && !a.records endpoint

/-- The loop over the endpoints, and whether an error left it. -/
def visitAll (p : Progress) : List IntegrationEndpoint → Progress × Bool
  | [] => (p,false)
  | endpoint::endpoints =>
    if a.stops endpoint then (visit runtime a event p endpoint,true)
    else visitAll (visit runtime a event p endpoint) endpoints

def dispatchOutboxEvent (endpoints : Table IntegrationEndpoint.id) :
    Progress × Except Str (List HttpIntegrationDeliveryResult) :=
  let (p,left) := visitAll runtime a event {} (findActiveEndpointsForEvent runtime endpoints event.type)
  if left then (p,.error storeError)
  else if p.errors=[] then (p,.ok p.results)
  else (p,.error ("Integration dispatch failed: ".toList++[';',' '].intercalate p.errors))

end Dispatch

/-- An event, and what its attempts have done: the endpoints each tried, and the requests. -/
structure Dispatching where
  event : OutboxEventRecord
  tried : List (List ℕ)
  requests : List Request
  logs : List IntegrationDispatchLog
  deadLetters : List DeadLetterInput

/-- One attempt of a dispatcher that no other overtakes; an event that is not to be claimed is
left. -/
def attempt (runtime : OrderUpdates.Runtime) (endpoints : Table IntegrationEndpoint.id)
    (s : Dispatching) (a : Attempt) : Dispatching :=
  if claimable a.now a.input.eventType s.event then
    let claimed := lease a.now s.event
    let (p,answer) := if trim claimed.type=[] then
        (({} : Progress),Except.error "Outbox event type is missing".toList)
      else dispatchOutboxEvent runtime a claimed endpoints
    { tried := s.tried++[p.tried]
      requests := s.requests++p.requests
      logs := s.logs++p.logs
      deadLetters := s.deadLetters++p.deadLetters
      event := match answer with
        | .ok _ => markedSent a.finished claimed
        | .error error => markedFailed (getNextRetryDecision claimed.attempts
            (a.input.maxAttempts.getD DEFAULT_MAX_ATTEMPTS)
            (a.input.retryDelaySeconds.getD DEFAULT_RETRY_DELAY_SECONDS) a.finished) a.finished error
            claimed }
  else s

/-- The endpoints that get their turn. -/
def Attempt.visited (a : Attempt) : List IntegrationEndpoint → List IntegrationEndpoint
  | [] => []
  | endpoint::endpoints => if a.stops endpoint then [endpoint] else endpoint::a.visited endpoints

theorem visit_spec (runtime : OrderUpdates.Runtime) (a : Attempt) (event : OutboxEventRecord)
    (p : Progress) (endpoint : IntegrationEndpoint) :
    (visit runtime a event p endpoint).tried=p.tried++[endpoint.id] ∧
    (visit runtime a event p endpoint).requests=
      p.requests++(requestTo runtime a event endpoint).toList ∧
    ((visit runtime a event p endpoint).errors=[] ↔ p.errors=[] ∧ (a.answer endpoint).ok=true) := by
  unfold visit deliverHttpIntegrationEvent
  cases hanswer : a.answer endpoint with
  | threw message => simp [caught,Answer.ok]
  | blocked message => simp [caught,Answer.ok]
  | responded statusCode responseBody =>
    by_cases hok : (Answer.responded statusCode responseBody).ok=true
    · simp [hok]
    · by_cases hrecords : a.records endpoint=true
      · simp [hok,hrecords]
      · simp [hok,hrecords,caught]

/-- What a dispatch has done is what the turns of the visited endpoints do; it ends without an error
just where all endpoints answer with success. -/
theorem visitAll_spec (runtime : OrderUpdates.Runtime) (a : Attempt) (event : OutboxEventRecord)
    (endpoints : List IntegrationEndpoint) (p : Progress) :
    (visitAll runtime a event p endpoints).1.tried=p.tried++(a.visited endpoints).map (·.id) ∧
    (visitAll runtime a event p endpoints).1.requests=
      p.requests++(a.visited endpoints).filterMap (requestTo runtime a event) ∧
    ((visitAll runtime a event p endpoints).2=false ∧
        (visitAll runtime a event p endpoints).1.errors=[] ↔
      p.errors=[] ∧ ∀ e∈endpoints, (a.answer e).ok=true) := by
  induction endpoints generalizing p with
  | nil => simp [visitAll,Attempt.visited]
  | cons endpoint endpoints ih =>
    obtain ⟨htried,hrequests,herrors⟩ := visit_spec runtime a event p endpoint
    by_cases hstops : a.stops endpoint=true
    · have hfails : (a.answer endpoint).ok=false := by
        have hboth := Bool.and_eq_true_iff.mp hstops
        simpa using hboth.1
      refine ⟨?_,?_,?_⟩
      · simp [visitAll,Attempt.visited,hstops,htried]
      · rw [visitAll,if_pos hstops,Attempt.visited,if_pos hstops,hrequests]
        cases hrequest : requestTo runtime a event endpoint <;> simp [hrequest]
      · simp [visitAll,hstops,hfails]
    · obtain ⟨htried',hrequests',herrors'⟩ := ih (visit runtime a event p endpoint)
      rw [visitAll,if_neg hstops,Attempt.visited,if_neg hstops]
      refine ⟨?_,?_,?_⟩
      · rw [htried',htried]
        simp
      · rw [hrequests',hrequests]
        cases hrequest : requestTo runtime a event endpoint <;> simp [hrequest]
      · rw [herrors',herrors]
        simp [and_assoc]

section Runs
variable (runtime : OrderUpdates.Runtime) (endpoints : Table IntegrationEndpoint.id)
  (s : Dispatching) (a : Attempt)

/-- The endpoints that the event is for. -/
def selected : List IntegrationEndpoint := findActiveEndpointsForEvent runtime endpoints s.event.type

/-- The endpoint has answered a request with success. -/
def Succeeded (requests : List Request) (endpointId : ℕ) : Prop :=
  ∃ r∈requests, r.endpointId=endpointId ∧ r.success=true

structure DeliversOnce : Prop where
  once : s.requests.Pairwise fun r r' => r.success=true → r'.endpointId≠r.endpointId
  all : ∀ tried∈s.tried, tried=(selected runtime endpoints s).map (·.id)
  sent : s.tried≠[] → (s.event.status=.SENT ↔
    ∀ e∈selected runtime endpoints s, Succeeded s.requests e.id)

/-- No failure but the last one is left unrecorded. Endpoints that have answered with success before
are not reached, and where there are such, another one that has not fails again. -/
structure Spares : Prop where
  recorded : ∀ e∈(selected runtime endpoints s).dropLast, a.stops e=false
  unreached : ∀ e∈selected runtime endpoints s, Succeeded s.requests e.id →
    (a.answer e).isBlocked=true
  waits : (∃ e∈selected runtime endpoints s, Succeeded s.requests e.id) →
    ∃ e∈selected runtime endpoints s, ¬Succeeded s.requests e.id ∧ (a.answer e).ok=false

/-- An attempt that claims the event spares the endpoints that have it. -/
def Fits : Prop := claimable a.now a.input.eventType s.event=true → Spares runtime endpoints s a

instance decidableSucceeded (requests : List Request) (endpointId : ℕ) :
    Decidable (Succeeded requests endpointId) := by
  unfold Succeeded
  infer_instance

variable {runtime endpoints s a}

theorem nodup_selected (runtime : OrderUpdates.Runtime) (endpoints : Table IntegrationEndpoint.id)
    (s : Dispatching) : ((selected runtime endpoints s).map (·.id)).Nodup :=
  (List.filter_sublist.map _).nodup endpoints.nodup

theorem visited_of_not_stops {es : List IntegrationEndpoint} (h : ∀ e∈es.dropLast, a.stops e=false) :
    a.visited es=es := by
  induction es with
  | nil => rfl
  | cons e es ih =>
    cases es with
    | nil => simp [Attempt.visited]
    | cons e' es =>
      have hfirst : a.stops e=false := h e (by simp)
      have hrest := ih fun x hx => h x (by simp [hx])
      rw [Attempt.visited,hfirst,hrest]
      simp

theorem visited_initial (es : List IntegrationEndpoint) : a.visited es<+:es := by
  induction es with
  | nil => exact List.prefix_refl _
  | cons e es ih =>
    rw [Attempt.visited]
    split
    · exact List.cons_prefix_cons.mpr ⟨rfl,List.nil_prefix⟩
    · exact List.cons_prefix_cons.mpr ⟨rfl,ih⟩

theorem not_stops_of_visited {es : List IntegrationEndpoint} (h : a.visited es=es) :
    ∀ e∈es.dropLast, a.stops e=false := by
  induction es with
  | nil => simp
  | cons e es ih =>
    cases es with
    | nil => simp
    | cons e' es =>
      rw [Attempt.visited] at h
      split at h
      · simp at h
      · next hstops =>
        have hrest := ih (List.cons.inj h).2
        intro x hx
        rw [List.dropLast_cons_cons] at hx
        rcases List.mem_cons.mp hx with rfl|hx
        · exact Bool.not_eq_true _ ▸ hstops
        · exact hrest x hx

theorem markedFailed_status (claimed maxAttempts retryDelaySeconds now : ℕ) (error : Str)
    (r : OutboxEventRecord) :
    (markedFailed (getNextRetryDecision claimed maxAttempts retryDelaySeconds now) now error r).status≠
      .SENT := by
  unfold markedFailed getNextRetryDecision
  dsimp only
  split <;> simp

theorem attempt_spec (runtime : OrderUpdates.Runtime) (endpoints : Table IntegrationEndpoint.id)
    (hclaim : claimable a.now a.input.eventType s.event=true)
    (htype : trim s.event.type≠[]) :
    (attempt runtime endpoints s a).event.type=s.event.type ∧
    (attempt runtime endpoints s a).tried=
      s.tried++[(a.visited (selected runtime endpoints s)).map (·.id)] ∧
    (attempt runtime endpoints s a).requests=s.requests++(a.visited (selected runtime endpoints s)).filterMap
      (requestTo runtime a (lease a.now s.event)) ∧
    ((attempt runtime endpoints s a).event.status=.SENT ↔
      ∀ e∈selected runtime endpoints s, (a.answer e).ok=true) := by
  have hclaimed : trim (lease a.now s.event).type≠[] := htype
  obtain ⟨htried,hrequests,herrors⟩ := visitAll_spec runtime a (lease a.now s.event)
    (selected runtime endpoints s) {}
  have hsame : findActiveEndpointsForEvent runtime endpoints (lease a.now s.event).type=
    selected runtime endpoints s := rfl
  unfold attempt
  rw [if_pos hclaim]
  dsimp only
  rw [if_neg hclaimed]
  unfold dispatchOutboxEvent
  rw [hsame]
  dsimp only
  by_cases hleft : (visitAll runtime a (lease a.now s.event) {} (selected runtime endpoints s)).2=true
  · have hnot : ¬∀ e∈selected runtime endpoints s, (a.answer e).ok=true := by
      intro hall
      have hdone := herrors.mpr ⟨rfl,hall⟩
      rw [hleft] at hdone
      cases hdone.1
    simp only [hleft,if_true]
    refine ⟨rfl,by rw [htried]; rfl,by rw [hrequests]; rfl,?_⟩
    exact iff_of_false (markedFailed_status _ _ _ _ _ _) hnot
  · have hleft' := Bool.not_eq_true _ ▸ hleft
    simp only [hleft',Bool.false_eq_true,if_false]
    by_cases hempty : (visitAll runtime a (lease a.now s.event) {}
        (selected runtime endpoints s)).1.errors=[]
    · simp only [hempty,if_true]
      refine ⟨rfl,by rw [htried]; rfl,by rw [hrequests]; rfl,?_⟩
      exact iff_of_true rfl (herrors.mp ⟨hleft',hempty⟩).2
    · simp only [hempty,if_false]
      refine ⟨rfl,by rw [htried]; rfl,by rw [hrequests]; rfl,?_⟩
      exact iff_of_false (markedFailed_status _ _ _ _ _ _)
        fun hall => hempty (herrors.mpr ⟨rfl,hall⟩).2

theorem requestTo_eq_some {event : OutboxEventRecord} {e : IntegrationEndpoint} {r : Request}
    (h : requestTo runtime a event e=some r) :
    (a.answer e).isBlocked=false ∧ r.endpointId=e.id ∧ r.success=(a.answer e).ok := by
  unfold requestTo at h
  split at h
  · cases h
  · next hblocked =>
    cases h
    exact ⟨Bool.not_eq_true _ ▸ hblocked,rfl,rfl⟩

theorem requestTo_isSome (runtime : OrderUpdates.Runtime) (event : OutboxEventRecord)
    {e : IntegrationEndpoint}
    (h : (a.answer e).isBlocked=false) : ∃ r, requestTo runtime a event e=some r := by
  unfold requestTo
  simp [h]

theorem ok_not_blocked {answer : Answer} (h : answer.ok=true) : answer.isBlocked=false := by
  cases answer with
  | responded statusCode responseBody => rfl
  | threw message => rfl
  | blocked message => cases h

theorem succeeded_append {rs new : List Request} {id : ℕ} :
    Succeeded (rs++new) id ↔ Succeeded rs id ∨ Succeeded new id := by
  simp [Succeeded,or_and_right,exists_or]

theorem mem_requests {event : OutboxEventRecord} {es : List IntegrationEndpoint} {r : Request}
    (h : r∈es.filterMap (requestTo runtime a event)) :
    ∃ e∈es, (a.answer e).isBlocked=false ∧ r.endpointId=e.id ∧ r.success=(a.answer e).ok := by
  obtain ⟨e,he,hr⟩ := List.mem_filterMap.mp h
  exact ⟨e,he,requestTo_eq_some hr⟩

theorem succeeded_requests (runtime : OrderUpdates.Runtime) (event : OutboxEventRecord)
    {es : List IntegrationEndpoint}
    (hnodup : (es.map (·.id)).Nodup) {e : IntegrationEndpoint} (he : e∈es) :
    Succeeded (es.filterMap (requestTo runtime a event)) e.id ↔ (a.answer e).ok=true := by
  constructor
  · rintro ⟨r,hr,hid,hsuccess⟩
    obtain ⟨e',he',_,hid',hok⟩ := mem_requests hr
    have hsame : e'=e := List.inj_on_of_nodup_map hnodup he' he (hid'.symm.trans hid)
    rw [← hsame,← hok,hsuccess]
  · intro hok
    obtain ⟨r,hr⟩ := requestTo_isSome runtime event (ok_not_blocked hok)
    obtain ⟨_,hid,hsuccess⟩ := requestTo_eq_some hr
    exact ⟨r,List.mem_filterMap.mpr ⟨e,he,hr⟩,hid,hsuccess.trans hok⟩

theorem pairwise_requests {event : OutboxEventRecord} {es : List IntegrationEndpoint}
    (hnodup : (es.map (·.id)).Nodup) :
    (es.filterMap (requestTo runtime a event)).Pairwise
      fun r r' => r.success=true → r'.endpointId≠r.endpointId := by
  rw [List.pairwise_filterMap]
  have hpairs : es.Pairwise fun e e' => e.id≠e'.id := List.pairwise_map.mp hnodup
  apply hpairs.imp
  intro e e' hne r hr r' hr' _ hsame
  rw [(requestTo_eq_some hr).2.1,(requestTo_eq_some hr').2.1] at hsame
  exact hne hsame.symm

theorem selected_attempt (htype : (attempt runtime endpoints s a).event.type=s.event.type) :
    selected runtime endpoints (attempt runtime endpoints s a)=selected runtime endpoints s := by
  unfold selected
  rw [htype]

theorem DeliversOnce.attempt (h : DeliversOnce runtime endpoints s)
    (hclaim : claimable a.now a.input.eventType s.event=true) (htype : trim s.event.type≠[])
    (hspares : Spares runtime endpoints s a) :
    DeliversOnce runtime endpoints (attempt runtime endpoints s a) := by
  obtain ⟨hsame,htried,hrequests,hsent⟩ := attempt_spec runtime endpoints hclaim htype
  have hnodup := nodup_selected runtime endpoints s
  rw [visited_of_not_stops hspares.recorded] at htried hrequests
  constructor
  · rw [hrequests,List.pairwise_append]
    refine ⟨h.once,pairwise_requests hnodup,?_⟩
    intro r hr r' hr' hsuccess hid
    obtain ⟨e,he,hblocked,hid',_⟩ := mem_requests hr'
    have hreached := hspares.unreached e he ⟨r,hr,hid.symm.trans hid',hsuccess⟩
    rw [hblocked] at hreached
    cases hreached
  · intro tried hmem
    rw [htried] at hmem
    rw [selected_attempt hsame]
    rcases List.mem_append.mp hmem with hold|hnew
    · exact h.all tried hold
    · exact List.mem_singleton.mp hnew
  · intro _
    rw [hsent,selected_attempt hsame,hrequests]
    constructor
    · intro hall e he
      exact succeeded_append.mpr (.inr ((succeeded_requests runtime _ hnodup he).mpr (hall e he)))
    · intro hall e he
      rcases succeeded_append.mp (hall e he) with hbefore|hnow
      · obtain ⟨e',he',hnot,hfails⟩ := hspares.waits ⟨e,he,hbefore⟩
        rcases succeeded_append.mp (hall e' he') with hbefore'|hnow'
        · exact absurd hbefore' hnot
        · rw [(succeeded_requests runtime _ hnodup he').mp hnow'] at hfails
          cases hfails
      · exact (succeeded_requests runtime _ hnodup he).mp hnow

theorem DeliversOnce.spares (hclaim : claimable a.now a.input.eventType s.event=true)
    (htype : trim s.event.type≠[])
    (hafter : DeliversOnce runtime endpoints (IntegrationDispatch.attempt runtime endpoints s a)) :
    Spares runtime endpoints s a := by
  obtain ⟨hsame,htried,hrequests,hsent⟩ := attempt_spec runtime endpoints hclaim htype
  have hnodup := nodup_selected runtime endpoints s
  have hlast : (a.visited (selected runtime endpoints s)).map (·.id)∈
      (IntegrationDispatch.attempt runtime endpoints s a).tried := by
    rw [htried]
    exact List.mem_append_right _ (List.mem_singleton_self _)
  have hvisited : a.visited (selected runtime endpoints s)=selected runtime endpoints s := by
    have hids := hafter.all _ hlast
    rw [selected_attempt hsame] at hids
    have hlength := congrArg List.length hids
    rw [List.length_map,List.length_map] at hlength
    exact (visited_initial _).eq_of_length hlength
  rw [hvisited] at hrequests
  have hunreached : ∀ e∈selected runtime endpoints s, Succeeded s.requests e.id →
      (a.answer e).isBlocked=true := by
    rintro e he ⟨r,hr,hid,hsuccess⟩
    by_contra hblocked
    have hblocked' := Bool.not_eq_true _ ▸ hblocked
    obtain ⟨r',hr'⟩ := requestTo_isSome runtime (lease a.now s.event) hblocked'
    have honce := hafter.once
    rw [hrequests] at honce
    have hnew := List.mem_filterMap.mpr ⟨e,he,hr'⟩
    exact (List.pairwise_append.mp honce).2.2 r hr r' hnew hsuccess
      ((requestTo_eq_some hr').2.1.trans hid.symm)
  refine ⟨not_stops_of_visited hvisited,hunreached,?_⟩
  rintro ⟨e,he,hbefore⟩
  have hmade : (IntegrationDispatch.attempt runtime endpoints s a).tried≠[] :=
    List.ne_nil_of_mem hlast
  have hnotSent : ¬∀ e∈selected runtime endpoints s, (a.answer e).ok=true := by
    intro hall
    have hblocked := ok_not_blocked (hall e he)
    rw [hunreached e he hbefore] at hblocked
    cases hblocked
  have hmissing := mt (hafter.sent hmade).mpr (mt hsent.mp hnotSent)
  rw [selected_attempt hsame,hrequests] at hmissing
  push Not at hmissing
  obtain ⟨e',he',hnot⟩ := hmissing
  refine ⟨e',he',fun hb => hnot (succeeded_append.mpr (.inl hb)),?_⟩
  by_contra hok
  have hnow := (succeeded_requests runtime (lease a.now s.event) hnodup he').mpr
    (by simpa using hok)
  exact hnot (succeeded_append.mpr (.inr hnow))

/-- An event before its first attempt. -/
def start (event : OutboxEventRecord) : Dispatching := ⟨event,[],[],[],[]⟩

/-- In every run: all states have each endpoint tried in every attempt, none reached again after an
answer with success, and the event SENT just when all have answered so, if and only if every attempt
fits. -/
theorem dispatch_delivers_once_iff {event : OutboxEventRecord} (htype : trim event.type≠[])
    (as : List Attempt) :
    (∀ bs, bs<+:as →
      DeliversOnce runtime endpoints (Histories.run (attempt runtime endpoints) (start event) bs)) ↔
    Histories.Throughout (attempt runtime endpoints) (Fits runtime endpoints) (start event) as := by
  have hstart : DeliversOnce runtime endpoints (start event) := by
    refine ⟨List.Pairwise.nil,fun tried h => absurd h List.not_mem_nil,fun h => ?_⟩
    exact absurd rfl h
  have hkeeps : ∀ s a, trim s.event.type≠[] → trim (attempt runtime endpoints s a).event.type≠[] := by
    intro s a hs
    by_cases hclaim : claimable a.now a.input.eventType s.event=true
    · rw [(attempt_spec runtime endpoints hclaim hs).1]
      exact hs
    · unfold attempt
      rw [if_neg hclaim]
      exact hs
  refine Histories.law_iff hstart htype hkeeps fun s a hs htyped => ⟨fun hfits => ?_,?_⟩
  · by_cases hclaim : claimable a.now a.input.eventType s.event=true
    · exact hs.attempt hclaim htyped (hfits hclaim)
    · unfold attempt
      rw [if_neg hclaim]
      exact hs
  · intro hafter hclaim
    exact DeliversOnce.spares hclaim htyped hafter

end Runs

def demoRuntime : OrderUpdates.Runtime := ⟨fun s => s.map Char.toUpper,fun _ => none⟩

def erp : IntegrationEndpoint :=
  ⟨1,"ERP-1".toList,"erp".toList,"https://erp.example/".toList,.ACTIVE,{}⟩

def carrier : IntegrationEndpoint :=
  ⟨2,"TMS-1".toList,"WEBHOOK".toList,"https://tms.example".toList,.ACTIVE,
    {eventTypes := ["shipment_shipped".toList]}⟩

theorem nodup_demo : ([erp,carrier].map IntegrationEndpoint.id).Nodup := by decide

def demoEndpoints : Table IntegrationEndpoint.id := ⟨[erp,carrier],nodup_demo⟩

def demoEvent : OutboxEventRecord where
  id := 7
  type := "SHIPMENT_SHIPPED".toList
  aggregateType := "shipment".toList
  aggregateId := "S-1".toList
  payload := .object []
  status := .PENDING
  attempts := 0
  lastError := none
  availableAt := 0
  sentAt := none

/-- The two endpoints answer with these status codes. -/
def demoAttempt (now erpCode carrierCode : ℕ) : Attempt where
  now := now
  finished := now
  input := {}
  answer := fun e => .responded (if e.id=1 then erpCode else carrierCode) []
  records := fun _ => true

theorem spares_iff {runtime : OrderUpdates.Runtime} {endpoints : Table IntegrationEndpoint.id}
    {s : Dispatching} {a : Attempt} : Spares runtime endpoints s a ↔
      (∀ e∈(selected runtime endpoints s).dropLast, a.stops e=false) ∧
      (∀ e∈selected runtime endpoints s, Succeeded s.requests e.id → (a.answer e).isBlocked=true) ∧
      ((∃ e∈selected runtime endpoints s, Succeeded s.requests e.id) →
        ∃ e∈selected runtime endpoints s, ¬Succeeded s.requests e.id ∧ (a.answer e).ok=false) :=
  ⟨fun h => ⟨h.recorded,h.unreached,h.waits⟩,fun h => ⟨h.1,h.2.1,h.2.2⟩⟩

instance decidableFits (runtime : OrderUpdates.Runtime) (endpoints : Table IntegrationEndpoint.id)
    (s : Dispatching) (a : Attempt) : Decidable (Fits runtime endpoints s a) := by
  unfold Fits
  have hspares : Decidable (Spares runtime endpoints s a) := decidable_of_iff _ spares_iff.symm
  infer_instance

/-- Both fail, then both succeed: each has it once, and it is SENT. -/
theorem dispatch_delivers_once_demo : DeliversOnce demoRuntime demoEndpoints
    (Histories.run (attempt demoRuntime demoEndpoints) (start demoEvent)
      [demoAttempt 0 500 503,demoAttempt 60000 200 204]) := by
  have hfits : Histories.Throughout (attempt demoRuntime demoEndpoints)
      (Fits demoRuntime demoEndpoints) (start demoEvent)
      [demoAttempt 0 500 503,demoAttempt 60000 200 204] := by decide +kernel
  have htype : trim demoEvent.type≠[] := by decide
  exact (dispatch_delivers_once_iff htype [demoAttempt 0 500 503,demoAttempt 60000 200 204]).mpr
    hfits _ (List.prefix_refl _)

/-- One fails: the other, which has the event, is sent it again. -/
theorem delivered_twice :
    (Histories.run (attempt demoRuntime demoEndpoints) (start demoEvent)
      [demoAttempt 0 200 503,demoAttempt 60000 200 204]).requests.map
        (fun r => (r.endpointId,r.success))=[(1,true),(2,false),(1,true),(2,true)] ∧
    ¬DeliversOnce demoRuntime demoEndpoints
      (Histories.run (attempt demoRuntime demoEndpoints) (start demoEvent)
        [demoAttempt 0 200 503,demoAttempt 60000 200 204]) := by
  refine ⟨by decide +kernel,fun h => ?_⟩
  exact absurd h.once (by decide +kernel)

end AardvarkWms.IntegrationDispatch
