import AardvarkWms.Histories
import AardvarkWms.OrderUpdates
import AardvarkWms.Texts

/-! The realtime channels of the warehouses: `src/realtime/realtime-broadcaster.service.ts`. -/
namespace AardvarkWms.Realtime

open Messaging (Str trim)
open OrderUpdates (isUuid)
open Histories

structure RealtimeEnvelope where
  id : Str
  warehouseId : Str
  type : Str
  occurredAt : ℤ
  data : Json

/-- A subject, by the key it was made for and its number, and how many streams it has. -/
structure Channel where
  subject : Str×ℕ
  subscribers : ℕ

/-- What `stream` has given out, and what came to it over its channel's subject. -/
structure Stream where
  warehouseReference : Str
  subject : Str×ℕ
  isOpen : Bool
  received : List RealtimeEnvelope

structure Broadcaster where
  channels : Str → Option Channel
  subjects : ℕ
  streams : List Stream

variable (lang : Language)

def toWarehouseChannelKey (warehouseReference : Str) : Str :=
  let normalizedReference := trim warehouseReference
  if isUuid normalizedReference then lang.toLowerCase normalizedReference
  else lang.toUpperCase normalizedReference

def Stream.key (x : Stream) : Str := toWarehouseChannelKey lang x.warehouseReference

def stream (s : Broadcaster) (warehouseReference : Str) : Broadcaster :=
  let key := toWarehouseChannelKey lang warehouseReference
  let channel := (s.channels key).getD ⟨(key,s.subjects),0⟩
  { channels := Function.update s.channels key
      (some {channel with subscribers := channel.subscribers+1})
    subjects := if s.channels key=none then s.subjects+1 else s.subjects
    streams := s.streams++[⟨warehouseReference,channel.subject,true,[]⟩] }

/-- The `finalize` of a stream that is left. -/
def finalize (s : Broadcaster) (i : ℕ) (x : Stream) : Broadcaster :=
  {s with
    channels := Function.update s.channels (x.key lang) <| (s.channels (x.key lang)).bind fun current =>
      if current.subscribers-1=0 then none
      else some {current with subscribers := current.subscribers-1}
    streams := s.streams.set i {x with isOpen := false}}

def publish (s : Broadcaster) (warehouseReference : Str) (message : RealtimeEnvelope) :
    Broadcaster :=
  match s.channels (toWarehouseChannelKey lang warehouseReference) with
  | none => s
  | some channel =>
    {s with streams := s.streams.map fun x =>
      if x.isOpen && x.subject=channel.subject then {x with received := x.received++[message]} else x}

/-- `publishMany`, from the keys that it has seen; each message has an id of its own. -/
def publishFrom (message : Str → RealtimeEnvelope) (seenChannelKeys : List Str) :
    List Str → Broadcaster → Broadcaster
  | [], s => s
  | reference::references, s =>
    let channelKey := toWarehouseChannelKey lang reference
    if channelKey∈seenChannelKeys then publishFrom message seenChannelKeys references s
    else publishFrom message (channelKey::seenChannelKeys) references
      (publish lang s reference (message reference))

def publishMany (message : Str → RealtimeEnvelope) (warehouseReferences : List Str)
    (s : Broadcaster) : Broadcaster := publishFrom lang message [] warehouseReferences s

inductive Event
  | stream (warehouseReference : Str)
  | left (i : ℕ)
  | publishMany (message : Str → RealtimeEnvelope) (warehouseReferences : List Str)

def act (s : Broadcaster) : Event → Broadcaster
  | .stream warehouseReference => stream lang s warehouseReference
  | .left i =>
    match s.streams[i]? with
    | some x => if x.isOpen then finalize lang s i x else s
    | none => s
  | .publishMany message warehouseReferences => publishMany lang message warehouseReferences s

def start : Broadcaster := ⟨fun _ => none,0,[]⟩

/-- The stream is of the channel with this key. -/
def Stream.listens (key : Str) (x : Stream) : Bool := x.isOpen && x.key lang=key

/-- A channel counts the open streams of its key, and they have its subject. -/
structure Broadcaster.Sound (s : Broadcaster) : Prop where
  counted : ∀ key, (s.channels key).elim 0 (·.subscribers)=s.streams.countP (·.listens lang key)
  used : ∀ key c, s.channels key=some c → 0 < c.subscribers
  subject : ∀ x∈s.streams, x.isOpen=true → (s.channels (x.key lang)).map (·.subject)=some x.subject
  named : ∀ key c, s.channels key=some c → c.subject.1=key

/-- The messages of one call that a stream is to get: at most one, of the first reference to its
channel. -/
def Stream.gets (message : Str → RealtimeEnvelope) (references : List Str) (x : Stream) :
    List RealtimeEnvelope :=
  if x.isOpen then
    ((references.find? fun r => toWarehouseChannelKey lang r=x.key lang).map message).toList
  else []

/-- All streams, where each receives what `f` has for it. -/
def Broadcaster.deliver (f : Stream → List RealtimeEnvelope) (s : Broadcaster) : Broadcaster :=
  {s with streams := s.streams.map fun x => {x with received := x.received++f x}}

variable {lang} {s : Broadcaster}

theorem sound_start : start.Sound lang :=
  ⟨fun _ => rfl,nofun,nofun,nofun⟩

theorem Broadcaster.Sound.deliver (h : s.Sound lang) (f : Stream → List RealtimeEnvelope) :
    (s.deliver f).Sound lang := by
  refine ⟨?_,h.used,?_,h.named⟩
  · intro key
    rw [Broadcaster.deliver,List.countP_map]
    exact h.counted key
  · intro x hx hopen
    obtain ⟨y,hy,rfl⟩ := List.mem_map.mp hx
    exact h.subject y hy hopen

/-- Who has the subject of a channel is an open stream of its key. -/
theorem Broadcaster.Sound.listens_iff (h : s.Sound lang) {key : Str} {c : Channel} {x : Stream}
    (hc : s.channels key=some c) (hx : x∈s.streams) :
    (x.isOpen && x.subject=c.subject)=x.listens lang key := by
  cases hopen : x.isOpen with
  | false => simp [Stream.listens,hopen]
  | true =>
    obtain ⟨c',hc',hsubject⟩ := Option.map_eq_some_iff.mp (h.subject x hx hopen)
    have hkey : x.subject=c.subject ↔ x.key lang=key := by
      constructor
      · intro hsame
        rw [← h.named _ c' hc',hsubject,hsame,h.named key c hc]
      · rintro rfl
        rw [← hsubject,Option.some.inj (hc'.symm.trans hc)]
    simp [Stream.listens,hopen,hkey]

@[simp] theorem received_key {x : Stream} (l : List RealtimeEnvelope) :
    Stream.key lang {x with received := l}=x.key lang := rfl

theorem Broadcaster.deliver_congr {f g : Stream → List RealtimeEnvelope}
    (h : ∀ x∈s.streams, f x=g x) : s.deliver f=s.deliver g := by
  unfold Broadcaster.deliver
  congr 1
  apply List.map_congr_left
  intro x hx
  rw [h x hx]

theorem Broadcaster.deliver_nil : (s.deliver fun _ => [])=s := by
  simp [Broadcaster.deliver]

theorem Broadcaster.deliver_deliver {f g : Stream → List RealtimeEnvelope} :
    (s.deliver f).deliver g=s.deliver fun x => f x++g {x with received := x.received++f x} := by
  simp [Broadcaster.deliver,Function.comp_def]

theorem publish_eq (h : s.Sound lang) (reference : Str) (message : RealtimeEnvelope) :
    publish lang s reference message=s.deliver fun x =>
      if x.listens lang (toWarehouseChannelKey lang reference) then [message] else [] := by
  unfold publish
  cases hc : s.channels (toWarehouseChannelKey lang reference) with
  | none =>
    have hcount := h.counted (toWarehouseChannelKey lang reference)
    rw [hc] at hcount
    have hnone := List.countP_eq_zero.mp hcount.symm
    refine Broadcaster.deliver_nil.symm.trans (Broadcaster.deliver_congr ?_)
    intro x hx
    exact (if_neg (hnone x hx)).symm
  | some c =>
    dsimp only [Broadcaster.deliver]
    congr 1
    apply List.map_congr_left
    intro x hx
    rw [h.listens_iff hc hx]
    cases x.listens lang (toWarehouseChannelKey lang reference) <;> simp

/-- The loop: what has been seen has been delivered, and is not delivered again. -/
theorem publishFrom_eq {message : Str → RealtimeEnvelope} (references : List Str)
    (h : s.Sound lang) (seen : List Str) :
    publishFrom lang message seen references s=s.deliver fun x =>
      if x.key lang∈seen then [] else x.gets lang message references := by
  induction references generalizing s seen with
  | nil =>
    simp [publishFrom,Stream.gets,Broadcaster.deliver_nil]
  | cons r rs ih =>
    have hskip : ∀ x : Stream, toWarehouseChannelKey lang r≠x.key lang →
        x.gets lang message (r::rs)=x.gets lang message rs := by
      intro x hne
      simp [Stream.gets,hne]
    rw [publishFrom]
    split
    · rename_i hseen
      rw [ih h]
      apply Broadcaster.deliver_congr
      intro x _
      by_cases hx : x.key lang∈seen
      · rw [if_pos hx,if_pos hx]
      · rw [if_neg hx,if_neg hx,hskip x fun heq => hx (heq ▸ hseen)]
    · rename_i hseen
      rw [publish_eq h,ih (h.deliver _),Broadcaster.deliver_deliver]
      apply Broadcaster.deliver_congr
      intro x _
      by_cases hkey : toWarehouseChannelKey lang r=x.key lang
      · have hlistens : x.listens lang (toWarehouseChannelKey lang r)=x.isOpen := by
          simp [Stream.listens,hkey]
        have hgets : x.gets lang message (r::rs)=if x.isOpen then [message r] else [] := by
          simp [Stream.gets,hkey]
        rw [hkey] at hseen
        rw [hlistens,hgets,hkey,if_neg hseen]
        simp only [received_key,List.mem_cons_self,if_true,List.append_nil]
      · have hlistens : x.listens lang (toWarehouseChannelKey lang r)=false := by
          simp [Stream.listens,Ne.symm hkey]
        rw [hskip x hkey,hlistens]
        simp only [received_key,List.mem_cons,Ne.symm hkey,false_or]
        rfl

theorem publishMany_eq (h : s.Sound lang) (message : Str → RealtimeEnvelope)
    (references : List Str) :
    publishMany lang message references s=s.deliver fun x => x.gets lang message references := by
  simp [publishMany,publishFrom_eq references h []]

theorem sound_stream (h : s.Sound lang) (reference : Str) :
    (stream lang s reference).Sound lang := by
  -- the channel that the new stream joins
  have hjoined : ∃ c, (stream lang s reference).channels=Function.update s.channels
        (toWarehouseChannelKey lang reference) (some c) ∧
      (stream lang s reference).streams=s.streams++[⟨reference,c.subject,true,[]⟩] ∧
      c.subscribers=s.streams.countP (·.listens lang (toWarehouseChannelKey lang reference))+1 ∧
      c.subject.1=toWarehouseChannelKey lang reference ∧
      ∀ d, s.channels (toWarehouseChannelKey lang reference)=some d → d.subject=c.subject := by
    refine ⟨_,rfl,rfl,?_⟩
    rw [← h.counted]
    cases hc : s.channels (toWarehouseChannelKey lang reference) with
    | none => exact ⟨rfl,rfl,nofun⟩
    | some d => exact ⟨rfl,h.named _ d hc,fun d' hd' => by rw [Option.some.inj hd']; rfl⟩
  obtain ⟨c,hchannels,hstreams,hsubscribers,hnamed,hsame⟩ := hjoined
  refine ⟨?_,?_,?_,?_⟩
  · intro key
    rw [hchannels,hstreams,List.countP_append]
    by_cases hkey : key=toWarehouseChannelKey lang reference
    · subst hkey
      simp [hsubscribers,Stream.listens,Stream.key]
    · simp [Function.update_of_ne hkey,h.counted,Stream.listens,Stream.key,Ne.symm hkey]
  · intro key d hd
    rw [hchannels,Function.update_apply] at hd
    split at hd
    · cases hd
      omega
    · exact h.used key d hd
  · intro x hx hopen
    rw [hstreams] at hx
    rw [hchannels]
    cases List.mem_append.mp hx with
    | inl hold =>
      by_cases hkey : x.key lang=toWarehouseChannelKey lang reference
      · obtain ⟨d,hd,hdx⟩ := Option.map_eq_some_iff.mp (h.subject x hold hopen)
        rw [hkey] at hd ⊢
        simp [← hdx,hsame d hd]
      · rw [Function.update_of_ne hkey]
        exact h.subject x hold hopen
    | inr hnew =>
      rw [List.mem_singleton.mp hnew]
      simp [Stream.key]
  · intro key d hd
    rw [hchannels,Function.update_apply] at hd
    split at hd
    · rename_i hkey
      cases hd
      exact hnamed.trans hkey.symm
    · exact h.named key d hd

/-- The channels that stay are those of before. -/
theorem finalize_channels (h : s.Sound lang) {i : ℕ} {x : Stream} {key : Str} {c' : Channel}
    (hc' : (finalize lang s i x).channels key=some c') :
    0 < c'.subscribers ∧ ∃ c, s.channels key=some c ∧ c.subject=c'.subject := by
  by_cases hkey : key=x.key lang
  · subst hkey
    simp only [finalize,Function.update_self] at hc'
    obtain ⟨c,hc,hleft⟩ := Option.bind_eq_some_iff.mp hc'
    split at hleft
    · cases hleft
    · rename_i hne
      cases hleft
      exact ⟨Nat.pos_of_ne_zero hne,c,hc,rfl⟩
  · simp only [finalize,Function.update_of_ne hkey] at hc'
    exact ⟨h.used key c' hc',c',hc',rfl⟩

theorem finalize_counted (h : s.Sound lang) {i : ℕ} {x : Stream} (hx : s.streams[i]?=some x)
    (hopen : x.isOpen=true) (key : Str) :
    ((finalize lang s i x).channels key).elim 0 (·.subscribers)=
      (finalize lang s i x).streams.countP (·.listens lang key) := by
  obtain ⟨hi,hget⟩ := List.getElem?_eq_some_iff.mp hx
  obtain ⟨c,hc,_⟩ := Option.map_eq_some_iff.mp (h.subject x (List.mem_of_getElem? hx) hopen)
  have hcount := h.counted key
  simp only [finalize]
  rw [List.countP_set hi,hget,← hcount]
  by_cases hkey : key=x.key lang
  · subst hkey
    simp only [Function.update_self,hc,Option.bind_some,Stream.listens,hopen]
    split <;> simp_all
  · simp [Function.update_of_ne hkey,Stream.listens,Ne.symm hkey]

theorem sound_finalize (h : s.Sound lang) {i : ℕ} {x : Stream} (hx : s.streams[i]?=some x)
    (hopen : x.isOpen=true) : (finalize lang s i x).Sound lang := by
  have hcounted := finalize_counted h hx hopen
  refine ⟨hcounted,fun key c' hc' => (finalize_channels h hc').1,?_,?_⟩
  · intro y hy hyopen
    have hlistens : y.listens lang (y.key lang)=true := by
      simp [Stream.listens,hyopen]
    have hpos : 0 < ((finalize lang s i x).channels (y.key lang)).elim 0 (·.subscribers) :=
      hcounted _ ▸ List.countP_pos_iff.mpr ⟨y,hy,hlistens⟩
    have hold : y∈s.streams := by
      cases List.mem_or_eq_of_mem_set hy with
      | inl hold => exact hold
      | inr hnew =>
        rw [hnew] at hyopen
        cases hyopen
    cases hc' : (finalize lang s i x).channels (y.key lang) with
    | none => simp [hc'] at hpos
    | some c' =>
      obtain ⟨-,d,hd,hsubject⟩ := finalize_channels h hc'
      rw [Option.map_some,← hsubject,← h.subject y hold hyopen,hd,Option.map_some]
  · intro key c' hc'
    obtain ⟨-,d,hd,hsubject⟩ := finalize_channels h hc'
    rw [← hsubject,h.named key d hd]

theorem sound_act (h : s.Sound lang) (e : Event) : (act lang s e).Sound lang := by
  cases e with
  | stream reference => exact sound_stream h reference
  | left i =>
    simp only [act]
    split
    · rename_i x hx
      split
      · rename_i hopen
        exact sound_finalize h hx hopen
      · exact h
    · exact h
  | publishMany message references =>
    rw [act,publishMany_eq h]
    exact h.deliver _

/-- Whatever was published and however streams came and went, an event reaches the open streams of
the channels that are named, each once; and a channel is kept just as long as a stream is open. -/
theorem publishMany_reaches (as : List Event) (message : Str → RealtimeEnvelope)
    (references : List Str) (key : Str) :
    (publishMany lang message references (run (act lang) start as)).streams=
      (run (act lang) start as).streams.map (fun x =>
        {x with received := x.received++x.gets lang message references}) ∧
    ((run (act lang) start as).channels key≠none ↔
      ∃ x∈(run (act lang) start as).streams, x.isOpen=true ∧ x.key lang=key) := by
  have h : (run (act lang) start as).Sound lang := run_inv sound_start fun _ e hs => sound_act hs e
  rw [publishMany_eq h]
  refine ⟨rfl,?_⟩
  constructor
  · intro hc
    obtain ⟨c,hc⟩ := Option.ne_none_iff_exists'.mp hc
    have hcount := h.counted key
    rw [hc] at hcount
    have hused : 0 < c.subscribers := h.used key c hc
    rw [show c.subscribers=_ from hcount] at hused
    obtain ⟨x,hx,hlistens⟩ := List.countP_pos_iff.mp hused
    unfold Stream.listens at hlistens
    rw [Bool.and_eq_true,decide_eq_true_eq] at hlistens
    exact ⟨x,hx,hlistens⟩
  · rintro ⟨x,hx,hopen,rfl⟩ hc
    have hsubject := h.subject x hx hopen
    rw [hc] at hsubject
    cases hsubject

end AardvarkWms.Realtime
