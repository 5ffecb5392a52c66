import Linkcut.Proofs.Site.Drains
import Linkcut.Proofs.Site.Modest

/-!
Drains under abort calls that make requests of their own: they record and forget handles, look at
what is tracked, and drain, as deep as calls may nest, and end in an ordinary fault at most. In
whatever order the outermost drain takes its handles, it makes one abort call on each of them and on
no other, and the registry is what the requests of abort calls made of an empty one.
-/

set_option autoImplicit false

namespace Linkcut

/-- Requests about what is tracked, drains among them. -/
def Request.isTracking : Request → Bool
  | .record _ | .forget _ | .snapshot | .drain => true
  | _ => false

structure Reaction.Obliging (r : Reaction) : Prop where
  requests : ∀ q ∈ r.requests, q.isTracking
  fault : ∀ f ∈ r.fault, f.isOrdinary

def Site.Obliging (s : Site) : Prop := ∀ h n, ((s.transport h).reaction n).Obliging

theorem Site.Obliging.of_grows {s u : Site} (h : s.Obliging) (hg : s.Grows u) : u.Obliging :=
  fun k n => hg.reaction k ▸ h k n

def Frame.Obliging : Frame → Prop
  | .drain .. => True
  | .abort _ es f => (∀ e ∈ es, e.request.isTracking) ∧ ∀ g ∈ f, g.isOrdinary

/-- The fault that a call is told of. -/
def Focus.fault? : Focus → Option Fault
  | .answered (.error f) => some f
  | .ended _ f => f
  | _ => none

namespace Course

open Site

/-- What is asked, and what is going to be asked, is about what is tracked, and no fault is fatal. -/
structure Obliging (x : Course) : Prop where
  reactions : x.site.Obliging
  asked : ∀ e, x.focus = .asked e → e.request.isTracking
  told : ∀ f ∈ x.focus.fault?, f.isOrdinary
  frames : ∀ fr ∈ x.frames, fr.Obliging

section

variable {self t : Target} {x y : Course}

theorem Obliging.step (hx : x.Obliging) (hstep : Step self x y) : y.Obliging := by
  have hreactions := hx.reactions.of_grows hstep.grows
  have hframes := hx.frames
  cases hstep with
  | record | forget | close | «break» | abort =>
    exact ⟨hreactions, by simp, by simp [Focus.fault?], hframes⟩
  | look s e fs look =>
    have htracking := hx.asked e rfl
    obtain ⟨t, q⟩ := e
    cases q with
    | snapshot => exact ⟨hreactions, by simp, by simp [Focus.fault?, Site.look, answer], hframes⟩
    | record | forget | drain => cases look
    | _ => cases htracking
  | drain s t fs =>
    exact ⟨hreactions, by simp, by simp [Focus.fault?],
      List.forall_mem_cons.2 ⟨trivial, hframes⟩⟩
  | pick s t n h hs fs =>
    exact ⟨hreactions, by simp, by simp [Focus.fault?],
      List.forall_mem_cons.2 ⟨trivial, (List.forall_mem_cons.1 hframes).2⟩⟩
  | settle =>
    exact ⟨hreactions, by simp, by simp [Focus.fault?], (List.forall_mem_cons.1 hframes).2⟩
  | enter s h fs =>
    have hr : (s.reaction h).Obliging := hx.reactions h _
    refine ⟨hreactions, by simp, by simp [Focus.fault?], List.forall_mem_cons.2 ⟨?_, hframes⟩⟩
    exact ⟨fun e he => hr.requests _ (Reaction.request_mem he), hr.fault⟩
  | tooDeep => exact ⟨hreactions, by simp, by simp [Focus.fault?]; decide, hframes⟩
  | ask s h e es f fs =>
    refine ⟨hreactions, fun d hd => ?_, by simp [Focus.fault?], hframes⟩
    cases hd
    exact (List.forall_mem_cons.1 hframes).1.1 e List.mem_cons_self
  | leave s h f fs =>
    obtain ⟨hhead, hrest⟩ := List.forall_mem_cons.1 hframes
    exact ⟨hreactions, by simp, hhead.2, hrest⟩
  | hear s h e es f fs r =>
    obtain ⟨hhead, hrest⟩ := List.forall_mem_cons.1 hframes
    refine ⟨hreactions, by simp, by simp [Focus.fault?], List.forall_mem_cons.2 ⟨?_, hrest⟩⟩
    exact ⟨fun d hd => hhead.1 d (List.mem_cons_of_mem _ hd), hhead.2⟩
  | cutShort s h es f fs g =>
    refine ⟨hreactions, by simp, by simp [Focus.fault?],
      List.forall_mem_cons.2 ⟨⟨by simp, ?_⟩, (List.forall_mem_cons.1 hframes).2⟩⟩
    exact hx.told
  | goOn | passOver => exact ⟨hreactions, by simp, by simp [Focus.fault?], hframes⟩
  | giveUp s t n h hs fs f fatal => exact absurd (hx.told f rfl) fatal
  | reply s h f fs direct =>
    refine ⟨hreactions, by simp, ?_, hframes⟩
    cases f with
    | none => simp [Focus.fault?, Reply.ofEnd]
    | some f => exact hx.told

theorem Obliging.turn (hx : x.Obliging) (hturn : Turn self x y) : y.Obliging := by
  cases hturn with
  | step h => exact hx.step h
  | drain s t fs =>
    exact ⟨hx.reactions.of_grows (grows_take s t.registryIndex), by simp, by simp [Focus.fault?],
      List.forall_mem_cons.2 ⟨trivial, hx.frames⟩⟩

theorem Trail.obliging {xs : List Course} (h : Trail self x xs y) (hx : x.Obliging) : y.Obliging :=
  h.invariant (fun _ y => y.Obliging) hx fun _ _ _ hturn hy => hy.turn hturn

theorem obliging_asked {s : Site} (hs : s.Obliging) : Obliging ⟨s, .asked ⟨t, .drain⟩, []⟩ :=
  ⟨hs, fun e he => by cases he; rfl, by simp [Focus.fault?], by simp⟩

end

end Course

namespace Site

open Course

/-- Whichever way a drain takes, with obliging abort calls, it comes to its end and answers how many
handles it took out. At every moment it has made at most one abort call on each of them and none on
another handle, and the registry is what the requests of abort calls, in their order, made of an
empty one, so that a handle is tracked only if one of them has recorded it. At the end the drain has
made one abort call on each of the handles. -/
theorem drain_reentrant (s : Site) (hs : s.Obliging) (self t : Target) :
    let i := t.registryIndex
    let taken := (s.registry i).members
    let start : Course := ⟨s, .asked ⟨t, .drain⟩, []⟩
    Inevitably self (fun y => ∃ u, y = ⟨u, .answered (.ok (.count taken.length)), []⟩) start ∧
    (∀ xs y, Trail self start xs y → xs ≠ [] →
      (∃ left, ((xs ++ [y]).filterMap own? ++ left).Perm taken) ∧
      y.site.registry i = Registry.replay i (xs.filterMap inner?) ∧
      ∀ h ∈ y.site.registry i,
        ∃ e ∈ xs.filterMap inner?, i = e.target.registryIndex ∧ e.request = .record h) ∧
    (∀ xs u a, Trail self start xs ⟨u, .answered a, []⟩ →
      a = .ok (.count taken.length) ∧ (xs.filterMap own?).Perm taken ∧
      u.registry i = Registry.replay i (xs.filterMap inner?)) ∧
    ∃ xs, Trail self start xs
      ⟨(s.perform self t .drain).2, .answered (s.perform self t .drain).1, []⟩ := by
  intro i taken start
  have hend : ∀ xs u a, Trail self start xs ⟨u, .answered a, []⟩ →
      a = .ok (.count taken.length) ∧ (xs.filterMap own?).Perm taken ∧
      u.registry i = Registry.replay i (xs.filterMap inner?) := by
    intro xs u a htrail
    have hdraining := htrail.draining.resolve_left (by simp)
    obtain ⟨left, hperm, ⟨rfl, hok⟩ | ⟨f, k, rfl, hfatal, _⟩⟩ := hdraining.answered
    · exact ⟨hok, by simpa using hperm, hdraining.registry⟩
    · exact absurd ((htrail.obliging (obliging_asked hs)).told f rfl) hfatal
  refine ⟨?_, fun xs y htrail hbegun => ?_, hend, trail_perform s self t .drain⟩
  · refine (inevitably_answered self ⟨t, .drain⟩ s).along .start ?_
    rintro xs _ htrail ⟨u, a, rfl⟩
    exact ⟨u, by rw [(hend xs u a htrail).1]⟩
  · have hdraining := htrail.draining.resolve_left fun h => hbegun h.1
    obtain ⟨hs', hperm, hunder⟩ := hdraining.underway
    obtain ⟨left, hall⟩ := hunder.all
    refine ⟨⟨left, hall ▸ hperm⟩, hdraining.registry, fun h hh => ?_⟩
    rw [hdraining.registry] at hh
    exact Registry.recorded_of_mem_replay hh

/-- Three transports. The first one, when it is aborted first, forgets the last, which is taken out
already, records itself and the second anew, drains, and fails; the second records itself and fails
whenever it is aborted. -/
def tangled : Site :=
  ((({} : Site).setTransport "a"
      { reaction := fun n =>
          if n = 0 then
            { requests := [.forget "c", .record "b", .record "a", .snapshot, .drain, .record "d"]
              fault := some .tooDeep }
          else {} }).setTransport "b"
      { reaction := fun _ =>
          { requests := [.record "b"], fault := some (.raised .valueError none) } }).setRegistry 0
    (((Registry.empty.insert "a").insert "b").insert "c")

theorem obliging_tangled : tangled.Obliging := by
  intro h n
  have hidle : Reaction.Obliging {} := ⟨by simp, by simp⟩
  have hsecond : Reaction.Obliging
      { requests := [.record "b"], fault := some (.raised .valueError none) } :=
    ⟨by decide, by decide⟩
  have hfirst : Reaction.Obliging
      { requests := [.forget "c", .record "b", .record "a", .snapshot, .drain, .record "d"]
        fault := some .tooDeep } := ⟨by decide, by decide⟩
  simp only [tangled, transport_setRegistry, transport_setTransport]
  split
  · exact hsecond
  · split
    · dsimp only
      split
      · exact hfirst
      · exact hidle
    · exact hidle

theorem drain_reentrant_tangled :
    let t := Target.registry 0
    let r := tangled.perform t t .drain
    tangled.Obliging ∧ (tangled.registry 0).members = ["a", "b", "c"] ∧
    r.1 = .ok (.count 3) ∧ (r.2.transport "a").aborts = 2 ∧ (r.2.transport "b").aborts = 2 ∧
    (r.2.registry 0).members = ["b", "d"] ∧
    ∃ xs, Trail t ⟨tangled, .asked ⟨t, .drain⟩, []⟩ xs ⟨r.2, .answered r.1, []⟩ ∧
      (xs.filterMap own?).Perm ["a", "b", "c"] ∧
      r.2.registry 0 = Registry.replay 0 (xs.filterMap inner?) := by
  intro t r
  obtain ⟨-, -, hend, xs, hxs⟩ := drain_reentrant tangled obliging_tangled t t
  obtain ⟨hok, hperm, hreplay⟩ := hend xs _ _ hxs
  exact ⟨obliging_tangled, by decide, hok, by decide, by decide, by decide, xs, hxs, hperm, hreplay⟩

end Site
end Linkcut
