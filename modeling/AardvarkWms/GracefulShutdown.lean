import AardvarkWms.Histories
import AardvarkWms.Messaging

/-! Shutting down: which requests are still let in, and when the others have been answered:
`src/reliability/graceful-shutdown.service.ts`. -/
namespace AardvarkWms.GracefulShutdown

open Messaging (Str)
open Histories

structure RequestLike where
  originalUrl : Option Str
  url : Option Str

def isHealthRequest (request : RequestLike) : Bool :=
  let path := (request.originalUrl.or request.url).getD []
  "/api/health".toList.isPrefixOf path || "/health".toList.isPrefixOf path

/-- A request that was let in, and the flag of its `release`. -/
structure Admitted where
  request : RequestLike
  released : Bool

structure Service where
  draining : Bool
  activeRequests : ℕ
  admitted : List Admitted

inductive Event
  | request (request : RequestLike)
  /-- `finish` or `close` of a response; both may come. -/
  | release (i : ℕ)
  | beforeApplicationShutdown

def act (s : Service) : Event → Service
  | .request r =>
    if s.draining && !isHealthRequest r then s
    else {s with activeRequests := s.activeRequests+1, admitted := s.admitted++[⟨r,false⟩]}
  | .release i =>
    match s.admitted[i]? with
    | some ⟨r,false⟩ =>
      {s with activeRequests := s.activeRequests-1, admitted := s.admitted.set i ⟨r,true⟩}
    | _ => s
  | .beforeApplicationShutdown => {s with draining := true}

def start : Service := ⟨false,0,[]⟩

/-- Each request that was let in and is not answered is counted once. -/
def Service.Counted (s : Service) : Prop := s.activeRequests=s.admitted.countP (!·.released)

/-- Nothing but health checks is still to be answered, or let in. -/
def Service.Drained (s : Service) : Prop :=
  s.draining=true ∧ ∀ a∈s.admitted, a.released=false → isHealthRequest a.request=true

theorem counted_act {s : Service} (e : Event) (h : s.Counted) : (act s e).Counted := by
  unfold Service.Counted at h
  cases e with
  | request r =>
    simp only [act]
    split
    · exact h
    · simp [Service.Counted,h]
  | release i =>
    simp only [act]
    split
    · rename_i r hget
      obtain ⟨hi,hget⟩ := List.getElem?_eq_some_iff.mp hget
      unfold Service.Counted
      rw [List.countP_set hi,h,hget]
      rfl
    · exact h
  | beforeApplicationShutdown => exact h

theorem drained_act {s : Service} (e : Event) (h : s.Drained) : (act s e).Drained := by
  cases e with
  | request r =>
    simp only [act]
    split
    · exact h
    · rename_i hhealth
      rw [h.1,Bool.true_and,Bool.not_eq_true',Bool.not_eq_false] at hhealth
      refine ⟨h.1,?_⟩
      intro a ha hopen
      cases List.mem_append.mp ha with
      | inl hold => exact h.2 a hold hopen
      | inr hnew => exact List.mem_singleton.mp hnew ▸ hhealth
  | release i =>
    simp only [act]
    split
    · refine ⟨h.1,?_⟩
      intro a ha hopen
      cases List.mem_or_eq_of_mem_set ha with
      | inl hold => exact h.2 a hold hopen
      | inr hnew =>
        rw [hnew] at hopen
        cases hopen
    · exact h
  | beforeApplicationShutdown => exact ⟨rfl,h.2⟩

/-- The requests in flight are counted, however often their responses end; and once none is left
while the service drains, only health checks are ever unanswered. -/
theorem shutdown_drains (as bs : List Event) : (run act start as).Counted ∧
    ((run act start as).draining=true → (run act start as).activeRequests=0 →
      (run act start (as++bs)).Drained) := by
  have hcounted : (run act start as).Counted := run_inv rfl fun _ e h => counted_act e h
  refine ⟨hcounted,?_⟩
  intro hdraining hidle
  have hdrained : (run act start as).Drained := by
    refine ⟨hdraining,?_⟩
    intro a ha hopen
    have hnone := List.countP_eq_zero.mp (hcounted.symm.trans hidle) a ha
    simp [hopen] at hnone
  unfold run at hdrained ⊢
  rw [List.foldl_append]
  exact run_inv hdrained fun _ e h => drained_act e h

end AardvarkWms.GracefulShutdown
