import Linkcut.Proofs.Site.Grows
import Linkcut.Proofs.Site.Requests

/-!
Modest abort calls: they record and forget handles at most, and end in an ordinary fault at most. A
drain that makes only such calls comes to its end, and aborts what it took out and nothing else.
-/

set_option autoImplicit false

namespace Linkcut

def Request.isModest : Request → Bool
  | .record _ | .forget _ => true
  | _ => false

structure Reaction.Modest (r : Reaction) : Prop where
  requests : ∀ q ∈ r.requests, q.isModest
  fault : ∀ f, r.fault = some f → f.isOrdinary

/-- Requests that abort no transport. -/
def Request.spares : Request → Bool
  | .drain | .abort _ => false
  | _ => true

/-- The abort call, with the registry whose drain made it. -/
def Event.abort? : Event → Option (Option Nat × Handle)
  | .aborted i h => some (i, h)
  | _ => none

theorem Reaction.address_request (self : Target) (ts : List Target) (qs : List Request) :
    (address self ts qs).map Errand.request = qs := by
  induction qs generalizing ts with
  | nil => cases ts <;> rfl
  | cons q qs ih => cases ts <;> simp [address, ih]

theorem Reaction.request_mem {r : Reaction} {self : Target} {e : Errand}
    (he : e ∈ r.errands self) : e.request ∈ r.requests := by
  have hin : e.request ∈ (r.errands self).map Errand.request := List.mem_map_of_mem he
  rwa [Reaction.errands, address_request] at hin

theorem Reaction.Modest.errands {r : Reaction} (h : r.Modest) (self : Target) :
    ∀ e ∈ r.errands self, e.request.isModest :=
  fun _ he => h.requests _ (request_mem he)

namespace Site

/-- Every abort call that was made, in order. -/
def aborts (s : Site) : List (Option Nat × Handle) := s.observed Event.abort?

def Modest (s : Site) : Prop := ∀ h n, ((s.transport h).reaction n).Modest

theorem Modest.of_grows {s u : Site} (h : s.Modest) (hg : s.Grows u) : u.Modest :=
  fun k n => hg.reaction k ▸ h k n

@[simp] theorem aborts_record (s : Site) (t : Target) (h : Handle) :
    (s.record t h).2.aborts = s.aborts := by
  rw [aborts, observed_record s _ h (fun _ => rfl) t]
  simp [aborts, Event.abort?]

@[simp] theorem aborts_forget (s : Site) (t : Target) (h : Handle) :
    (s.forget t h).2.aborts = s.aborts := by
  rw [aborts, observed_forget s _ h (fun _ => rfl) t]
  simp [aborts, Event.abort?]

@[simp] theorem aborts_take (s : Site) (i : Nat) : (s.take i).2.aborts = s.aborts := by
  simp [aborts, Event.abort?]

@[simp] theorem aborts_note (s : Site) (e : Event) :
    (s.note e).aborts = s.aborts ++ e.abort?.toList := observed_note s _ e

theorem aborts_perform (s : Site) (self target : Target) (q : Request) (hq : q.spares) :
    (s.perform self target q).2.aborts = s.aborts := by
  cases q with
  | record h => exact aborts_record s target h
  | forget h => exact aborts_forget s target h
  | drain => cases hq
  | abort h => cases hq
  | live => cases target <;> rfl
  | _ => rfl

theorem answer_modest (call : Abort) (s : Site) (t : Target) {q : Request} (hq : q.isModest) :
    ∃ r u, answer call t s q = (.ok r, u) ∧ s.Grows u ∧ u.aborts = s.aborts := by
  cases q with
  | record h => exact ⟨_, _, rfl, grows_record s t h, aborts_record s t h⟩
  | forget h => exact ⟨_, _, rfl, grows_forget s t h, aborts_forget s t h⟩
  | _ => cases hq

theorem follow_modest (call : Abort) {es : List Errand} (hes : ∀ e ∈ es, e.request.isModest)
    (s : Site) : ∃ u, follow (fun s e => answer call e.target s e.request) es s = (none, u) ∧
      s.Grows u ∧ u.aborts = s.aborts := by
  induction es generalizing s with
  | nil => exact ⟨s, rfl, .refl s, rfl⟩
  | cons e es ih =>
    obtain ⟨r, u, hans, hg, ha⟩ := answer_modest call s e.target (hes e (by simp))
    obtain ⟨v, hv, hgv, hav⟩ := ih (fun d hd => hes d (by simp [hd])) (u.note (.noted e.request r))
    refine ⟨v, ?_, (hg.trans (grows_note _ _)).trans hgv, ?_⟩
    · rw [follow, hans]
      exact hv
    · simp [hav, ha, Event.abort?]

/-- A modest abort call makes no further one. -/
theorem abort_modest (self : Target) (depth : Nat) {s : Site} (hs : s.Modest) (h : Handle) :
    ∃ f u, abort self (depth + 1) h s = (f, u) ∧ (∀ g, f = some g → g.isOrdinary) ∧
      s.Grows u ∧ u.aborts = s.aborts := by
  have hr : (s.reaction h).Modest := hs h _
  obtain ⟨u, hu, hg, ha⟩ := follow_modest (abort self depth) (hr.errands self) (s.beginAbort h)
  refine ⟨(s.reaction h).fault, u, ?_, hr.fault, (grows_beginAbort s h).trans hg, ?_⟩
  · simp only [abort, hu]
  · rw [ha, aborts, observed_beginAbort, ← aborts]

/-- Modest abort calls come one for each handle, in order. -/
theorem abortAll_modest (self : Target) (depth i : Nat) (hs : List Handle) {s : Site}
    (hm : s.Modest) :
    ∃ u, abortAll (abort self (depth + 1)) i hs s = (none, u) ∧ s.Grows u ∧
      u.aborts = s.aborts ++ hs.map (some i, ·) := by
  induction hs generalizing s with
  | nil => exact ⟨s, rfl, .refl s, by simp⟩
  | cons h hs ih =>
    have hnote := grows_note s (.aborted (some i) h)
    obtain ⟨f, u, hcall, hf, hg, ha⟩ := abort_modest self depth (hm.of_grows hnote) h
    rw [aborts_note] at ha
    have hgu := hnote.trans hg
    rw [abortAll, hcall]
    cases f with
    | none =>
      obtain ⟨v, hv, hgv, hav⟩ := ih (hm.of_grows hgu)
      exact ⟨v, hv, hgu.trans hgv, by simp [hav, ha, Event.abort?]⟩
    | some f =>
      have hpass : s.Grows ((u.note (.failed h f)).log (ignoredEntry f)) :=
        hgu.trans ((grows_note _ _).trans (grows_note _ _))
      obtain ⟨v, hv, hgv, hav⟩ := ih (hm.of_grows hpass)
      refine ⟨v, ?_, hpass.trans hgv, ?_⟩
      · simp only [hf f rfl, if_true]
        exact hv
      · simp [hav, ha, log, Event.abort?]

/-- A drain of modest transports comes to its end, and aborts each handle that was tracked. -/
theorem sweep_modest (self t : Target) (depth : Nat) {s : Site} (hm : s.Modest) :
    ∃ u, sweep (abort self (depth + 1)) s t =
        (.ok (s.registry t.registryIndex).members.length, u) ∧ s.Grows u ∧
      u.aborts = s.aborts ++ (s.registry t.registryIndex).members.map (some t.registryIndex, ·) := by
  have htake := grows_take s t.registryIndex
  obtain ⟨u, hu, hg, ha⟩ := abortAll_modest self depth t.registryIndex
    (s.registry t.registryIndex).members (hm.of_grows htake)
  rw [aborts_take] at ha
  refine ⟨u.settle t (s.registry t.registryIndex).members.length, ?_,
    (htake.trans hg).trans (grows_settle u t _), ?_⟩
  · cases t <;> simp only [sweep, Site.drain, take_fst, hu] <;> rfl
  · rw [aborts, observed_settle, ← aborts, ha]

end Site
end Linkcut
