import Linkcut.Proofs.Site.Modest
import Linkcut.Proofs.Site.Turns

/-!
One drain from its request to its answer. It takes every handle out and calls each in turn, while
abort calls make requests of their own; the registry is at every moment what these requests made of
an empty one. A fatal fault ends the drain early, and the handles that it has not come to are lost
unless abort calls have seen to them.
-/

set_option autoImplicit false

namespace Linkcut

/-- What a request makes of a registry, before the abort calls that it leads to. -/
def Errand.effect (i : Nat) (r : Registry) (e : Errand) : Registry :=
  if i = e.target.registryIndex then
    match e.request with
    | .record h => r.insert h
    | .forget h => r.erase h
    | .drain => .empty
    | _ => r
  else r

/-- What requests, one after the other, make of an empty registry. -/
def Registry.replay (i : Nat) (es : List Errand) : Registry := es.foldl (Errand.effect i) .empty

theorem Errand.recorded_of_mem_effect {i : Nat} {r : Registry} {e : Errand} {h : Handle}
    (hm : h ∈ e.effect i r) : h ∈ r ∨ i = e.target.registryIndex ∧ e.request = .record h := by
  obtain ⟨t, q⟩ := e
  simp only [effect] at hm
  split at hm
  · rename_i hi
    cases q with
    | record k =>
      refine ((Registry.mem_insert r k h).1 hm).imp_right fun hk => ?_
      exact ⟨hi, by rw [hk]⟩
    | forget k => exact .inl ((Registry.mem_erase r k h).1 hm).2
    | drain => exact absurd hm (Registry.not_mem_empty h)
    | _ => exact .inl hm
  · exact .inl hm

theorem Registry.recorded_of_mem_replay {i : Nat} {es : List Errand} {h : Handle}
    (hm : h ∈ replay i es) : ∃ e ∈ es, i = e.target.registryIndex ∧ e.request = .record h := by
  induction es using List.reverseRecOn with
  | nil => exact absurd hm (Registry.not_mem_empty h)
  | append_singleton es e ih =>
    rw [replay, List.foldl_append] at hm
    rcases Errand.recorded_of_mem_effect hm with hbefore | hrecord
    · obtain ⟨d, hd, hrec⟩ := ih hbefore
      exact ⟨d, List.mem_append_left _ hd, hrec⟩
    · exact ⟨e, List.mem_append_right _ (List.mem_singleton.2 rfl), hrecord⟩

/-- An abort call on the handle is under way, which the drain in the frame `base` has made. -/
inductive Frame.InCall (h : Handle) (base : Frame) : List Frame → Prop where
  | outermost (es : List Errand) (f : Option Fault) : InCall h base [.abort h es f, base]
  | deeper (fr : Frame) {fs : List Frame} (inner : InCall h base fs) : InCall h base (fr :: fs)

/-- How many drains wait for their abort calls. -/
def Frame.drains : List Frame → Nat
  | [] => 0
  | .drain .. :: fs => drains fs + 1
  | .abort .. :: fs => drains fs

theorem Frame.InCall.drains_pos {t : Target} {n : Nat} {hs : List Handle} {h : Handle}
    {fs : List Frame} (hc : InCall h (.drain t n hs) fs) : 0 < drains fs := by
  induction hc with
  | outermost => exact Nat.one_pos
  | deeper fr hc ih =>
    cases fr with
    | drain => exact Nat.succ_pos _
    | abort => exact ih

namespace Course

open Site

/-- The handle on which the outermost call, a drain, is making an abort call. -/
def own? : Course → Option Handle
  | ⟨_, .called h, [.drain ..]⟩ => some h
  | _ => none

/-- The handle on which anyone is making an abort call. -/
def called? : Course → Option Handle
  | ⟨_, .called h, _⟩ => some h
  | _ => none

/-- The request that an abort call is making. -/
def inner? : Course → Option Errand
  | ⟨_, .asked e, _ :: _⟩ => some e
  | _ => none

/-- A drain that is no part of another call, when it has taken out the handles `hs`, in that order,
and has made abort calls on those in the second list. -/
inductive Underway (t : Target) (hs : List Handle) : List Handle → Course → Prop where
  | between (s : Site) (done left : List Handle) (all : done ++ left = hs) :
    Underway t hs done ⟨s, .running, [.drain t hs.length left]⟩
  | calling (s : Site) (done : List Handle) (h : Handle) (left : List Handle)
      (all : done ++ [h] ++ left = hs) :
    Underway t hs (done ++ [h]) ⟨s, .called h, [.drain t hs.length left]⟩
  | inside (s : Site) (f : Focus) (fs : List Frame) (done : List Handle) (h : Handle)
      (left : List Handle) (all : done ++ [h] ++ left = hs)
      (call : Frame.InCall h (.drain t hs.length left) fs) :
    Underway t hs (done ++ [h]) ⟨s, f, fs⟩
  | ending (s : Site) (f : Option Fault) (done : List Handle) (h : Handle) (left : List Handle)
      (all : done ++ [h] ++ left = hs) :
    Underway t hs (done ++ [h]) ⟨s, .ended h f, [.drain t hs.length left]⟩
  | returned (s : Site) : Underway t hs hs ⟨s, .answered (.ok (.count hs.length)), []⟩
  /-- The call on the last of these handles has ended in a fatal fault. -/
  | failed (s : Site) (f : Fault) (done : List Handle) (h : Handle) (left : List Handle)
      (all : done ++ [h] ++ left = hs) (fatal : ¬ f.isOrdinary) :
    Underway t hs (done ++ [h]) ⟨s.note (.failed h f), .answered (.error f), []⟩

section

variable {self t : Target} {hs done : List Handle} {x y : Course}

theorem own?_of_inCall {h : Handle} {base : Frame} {fs : List Frame}
    (hc : Frame.InCall h base fs) (s : Site) (f : Focus) : own? ⟨s, f, fs⟩ = none := by
  have htwo : ∃ a b gs, fs = a :: b :: gs := by
    cases hc with
    | outermost => exact ⟨_, _, _, rfl⟩
    | deeper fr hc => cases hc <;> exact ⟨_, _, _, rfl⟩
  obtain ⟨a, b, gs, rfl⟩ := htwo
  cases f <;> cases a <;> rfl

/-- While an abort call is under way, one step stays inside it or ends it. -/
theorem inCall_step {h : Handle} {base : Frame} (hstep : Step self x y)
    (hc : Frame.InCall h base x.frames) :
    Frame.InCall h base y.frames ∨ ∃ f, y.focus = .ended h f ∧ y.frames = [base] := by
  cases hstep with
  | drain | enter => exact .inl (.deeper _ hc)
  | pick =>
    cases hc with
    | deeper _ hc => exact .inl (.deeper _ hc)
  | settle | giveUp =>
    cases hc with
    | deeper _ hc => exact .inl hc
  | leave s k f fs =>
    cases hc with
    | outermost => exact .inr ⟨f, rfl, rfl⟩
    | deeper _ hc => exact .inl hc
  | hear | cutShort =>
    cases hc with
    | outermost => exact .inl (.outermost _ _)
    | deeper _ hc => exact .inl (.deeper _ hc)
  | _ => exact .inl hc

theorem Underway.step (hx : Underway t hs done x) (hstep : Step self x y) :
    Underway t hs (done ++ y.own?.toList) y := by
  cases hx with
  | between s done left all =>
    cases hstep with
    | pick _ _ _ h left => exact .calling _ _ h left (by simpa using all)
    | settle =>
      obtain rfl : done = hs := by simpa using all
      have hend : Underway t done done _ := .returned (s.settle t done.length)
      simpa [own?] using hend
  | calling s done h left all =>
    cases hstep with
    | enter => simpa [own?] using Underway.inside _ _ _ done h left all (.outermost _ _)
    | tooDeep => simpa [own?] using Underway.ending s _ done h left all
  | inside s f fs done h left all call =>
    obtain ⟨u, g, gs⟩ := y
    rcases inCall_step hstep call with hcall | ⟨k, rfl, rfl⟩
    · simpa [own?_of_inCall hcall] using Underway.inside u g gs done h left all hcall
    · simpa [own?] using Underway.ending u k done h left all
  | ending s f done h left all =>
    cases hstep with
    | goOn => simpa [own?] using Underway.between s (done ++ [h]) left all
    | passOver => simpa [own?] using Underway.between _ (done ++ [h]) left all
    | giveUp _ _ _ _ _ _ g fatal =>
      simpa [own?] using Underway.failed s g done h left all fatal
    | reply _ _ _ _ direct => cases direct
  | returned => cases hstep
  | failed => cases hstep

/-- Only requests change registries. -/
theorem Step.registry (hstep : Step self x y)
    (hx : x.frames = [] → ∀ e, x.focus ≠ .asked e) (i : Nat) :
    y.site.registry i = x.inner?.toList.foldl (Errand.effect i) (x.site.registry i) := by
  have hinner : ∀ s e fs, x = ⟨s, .asked e, fs⟩ → x.inner? = some e := by
    rintro s e (_ | _) rfl
    · exact absurd rfl (hx rfl e)
    · rfl
  cases hstep with
  | record | forget | drain => simp [hinner _ _ _ rfl, Errand.effect]
  | close | «break» | abort => simp [hinner _ _ _ rfl, Errand.effect]
  | look s e fs look =>
    obtain ⟨t, q⟩ := e
    rw [hinner _ _ _ rfl]
    cases q <;> simp [Request.isLook] at look <;> simp [Errand.effect]
  | _ => simp [inner?]

theorem Turn.registry (hturn : Turn self x y)
    (hx : x.frames = [] → ∀ e, x.focus ≠ .asked e) (i : Nat) :
    y.site.registry i = x.inner?.toList.foldl (Errand.effect i) (x.site.registry i) := by
  cases hturn with
  | step h => exact h.registry hx i
  | drain s t fs =>
    -- the registry is empty afterwards, whatever the order
    have hstep : Step self _ _ := .drain s t fs
    exact hstep.registry hx i

theorem Underway.not_asked (hx : Underway t hs done x) (hframes : x.frames = []) (e : Errand) :
    x.focus ≠ .asked e := by
  cases hx with
  | inside _ _ _ _ _ _ _ call =>
    cases hframes
    cases call
  | _ => simp

theorem Underway.turn (hx : Underway t hs done x) (hturn : Turn self x y) :
    Underway t hs (done ++ y.own?.toList) y := by
  cases hturn with
  | step h => exact hx.step h
  | drain s t' fs gs =>
    cases hx with
    | inside _ _ _ done h left all call =>
      -- the drain was asked for by an abort call, and is not the outermost
      have hcall := call.deeper (.drain t' gs.length gs)
      simpa [own?_of_inCall hcall] using Underway.inside _ .running _ done h left all hcall

theorem Underway.all (hx : Underway t hs done x) : ∃ left, done ++ left = hs := by
  cases hx with
  | returned => exact ⟨[], by simp⟩
  | _ => exact ⟨_, ‹_›⟩

/-- The moments before `y`, and `y` itself, of a drain that has begun. -/
structure Draining (s : Site) (t : Target) (xs : List Course) (y : Course) : Prop where
  underway : ∃ hs, hs.Perm (s.registry t.registryIndex).members ∧
    Underway t hs ((xs ++ [y]).filterMap own?) y
  registry : y.site.registry t.registryIndex =
    Registry.replay t.registryIndex (xs.filterMap inner?)

theorem Draining.turn {s : Site} {xs : List Course} (hx : Draining s t xs x)
    (hturn : Turn self x y) : Draining s t (xs ++ [x]) y := by
  obtain ⟨⟨hs, hperm, hunder⟩, hreg⟩ := hx
  refine ⟨⟨hs, hperm, ?_⟩, ?_⟩
  · rw [List.filterMap_append]
    exact hunder.turn hturn
  · rw [hturn.registry hunder.not_asked, hreg, List.filterMap_append, Registry.replay,
      Registry.replay, List.foldl_append]
    rfl

theorem draining_of_turn {s : Site} (hturn : Turn self ⟨s, .asked ⟨t, .drain⟩, []⟩ y) :
    Draining s t [⟨s, .asked ⟨t, .drain⟩, []⟩] y := by
  have hbegun : ∀ hs, hs.Perm (s.registry t.registryIndex).members →
      y = ⟨(s.take t.registryIndex).2, .running, [.drain t hs.length hs]⟩ →
      Draining s t [⟨s, .asked ⟨t, .drain⟩, []⟩] y := by
    rintro hs hperm rfl
    exact ⟨⟨hs, hperm, .between _ [] hs rfl⟩, (registry_take _ _ _).trans (if_pos rfl)⟩
  cases hturn with
  | step h =>
    cases h with
    | drain => exact hbegun _ (.refl _) rfl
    | look _ _ _ look => cases look
  | drain _ _ _ hs perm => exact hbegun hs perm rfl

theorem Trail.draining {s : Site} {xs : List Course}
    (h : Trail self ⟨s, .asked ⟨t, .drain⟩, []⟩ xs y) :
    xs = [] ∧ y = ⟨s, .asked ⟨t, .drain⟩, []⟩ ∨ Draining s t xs y := by
  refine Trail.invariant (fun xs y => xs = [] ∧ y = ⟨s, .asked ⟨t, .drain⟩, []⟩ ∨
    Draining s t xs y) (.inl ⟨rfl, rfl⟩) ?_ h
  rintro xs y z hturn (⟨rfl, rfl⟩ | hy)
  · exact .inr (draining_of_turn hturn)
  · exact .inr (hy.turn hturn)

theorem called?_of_own? {h : Handle} (hx : x.own? = some h) : x.called? = some h := by
  unfold own? at hx
  split at hx
  · exact hx
  · cases hx

theorem Step.drains_le (hstep : Step self x y) (hx : ∀ e, x.focus = .asked e → e.request.spares) :
    Frame.drains y.frames ≤ Frame.drains x.frames := by
  cases hstep with
  | drain => cases hx _ rfl
  | _ => simp [Frame.drains]

theorem Step.called? (hstep : Step self x y) (hx : ∀ e, x.focus = .asked e → e.request.spares) :
    y.called? = none ∨ x.focus = .running ∧ Frame.isDrain x.frames := by
  cases hstep with
  | abort => cases hx _ rfl
  | pick => exact .inr ⟨rfl, rfl⟩
  | _ => exact .inl rfl

/-- Only the outermost drain makes abort calls when no other one is under way. -/
theorem Underway.called? (hx : Underway t hs done x) (hstep : Step self x y)
    (hquiet : ∀ e, x.focus = .asked e → e.request.spares) (hone : Frame.drains x.frames ≤ 1) :
    y.called? = y.own? := by
  rcases hstep.called? hquiet with hnone | ⟨hfocus, hdrain⟩
  · have hown : y.own? = none := by
      by_contra hsome
      obtain ⟨h, hh⟩ := Option.ne_none_iff_exists'.1 hsome
      rw [called?_of_own? hh] at hnone
      cases hnone
    rw [hnone, hown]
  · cases hx with
    | between => cases hstep <;> rfl
    | inside s f fs done h left all call =>
      -- the innermost call would be a second drain
      cases call with
      | outermost => cases hdrain
      | deeper fr call =>
        cases fr with
        | drain =>
          have hpos := call.drains_pos
          simp only [Frame.drains] at hone
          omega
        | abort => cases hdrain
    | _ => cases hfocus

/-- As long as abort calls ask for no drain and no abort call, the outermost drain makes all calls. -/
theorem Trail.called {s : Site} {xs : List Course}
    (h : Trail self ⟨s, .asked ⟨t, .drain⟩, []⟩ xs y)
    (hquiet : ∀ e ∈ xs.filterMap inner?, e.request.spares) :
    Frame.drains y.frames ≤ 1 ∧
      (xs ++ [y]).filterMap called? = (xs ++ [y]).filterMap own? := by
  induction h with
  | start => exact ⟨Nat.zero_le _, rfl⟩
  | @turn xs y z before next ih =>
    rw [List.filterMap_append] at hquiet
    obtain ⟨hone, hcalls⟩ := ih fun e he => hquiet e (List.mem_append_left _ he)
    have hnext : ∀ f : Course → Option Handle,
        (xs ++ [y] ++ [z]).filterMap f = (xs ++ [y]).filterMap f ++ (f z).toList :=
      fun f => List.filterMap_append
    rw [hnext, hnext, hcalls]
    rcases before.draining with ⟨rfl, rfl⟩ | hy
    -- the first turn takes the handles out and calls none
    · cases next with
      | step h =>
        cases h with
        | drain => exact ⟨Nat.le_refl _, rfl⟩
        | look _ _ _ look => cases look
      | drain => exact ⟨Nat.le_refl _, rfl⟩
    · obtain ⟨⟨hs, -, hunder⟩, -⟩ := hy
      have hspares : ∀ e, y.focus = .asked e → e.request.spares := by
        intro e he
        obtain ⟨u, f, fs⟩ := y
        cases he
        cases fs with
        | nil => exact absurd rfl (hunder.not_asked rfl e)
        | cons fr fs => exact hquiet e (List.mem_append_right _ (List.mem_singleton.2 rfl))
      cases next with
      | step h =>
        refine ⟨Nat.le_trans (h.drains_le hspares) hone, ?_⟩
        have hsame := hunder.called? h hspares hone
        simp [hsame]
      | drain => cases hspares _ rfl

/-- The end of a drain: it has come to all of its handles, or the last one that it came to has ended
in a fatal fault. -/
theorem Draining.answered {s u : Site} {xs : List Course} {a : Except Fault Reply}
    (h : Draining s t xs ⟨u, .answered a, []⟩) :
    ∃ left, (xs.filterMap own? ++ left).Perm (s.registry t.registryIndex).members ∧
      (left = [] ∧ a = .ok (.count (s.registry t.registryIndex).members.length) ∨
        ∃ f k, a = .error f ∧ ¬ f.isOrdinary ∧ (xs.filterMap own?).getLast? = some k ∧
          u.journal.head? = some (.failed k f)) := by
  obtain ⟨⟨hs, hperm, hunder⟩, -⟩ := h
  have hown : (xs ++ [(⟨u, .answered a, []⟩ : Course)]).filterMap own? = xs.filterMap own? := by
    simp [own?]
  rw [hown] at hunder
  generalize xs.filterMap own? = done at hunder ⊢
  cases hunder with
  | returned => exact ⟨[], by simpa using hperm, .inl ⟨rfl, by rw [hperm.length_eq]⟩⟩
  | failed s f done k left all fatal =>
    exact ⟨left, all ▸ hperm, .inr ⟨f, k, rfl, fatal, by simp, rfl⟩⟩
  | inside _ _ _ _ _ _ _ call => cases call

theorem Draining.keeps_iff {s : Site} {xs : List Course} {left : List Handle}
    (h : Draining s t xs y)
    (hperm : (xs.filterMap own? ++ left).Perm (s.registry t.registryIndex).members) :
    (∀ h ∈ s.registry t.registryIndex,
        h ∈ xs.filterMap called? ∨ h ∈ y.site.registry t.registryIndex) ↔
      ∀ h ∈ left, h ∈ xs.filterMap called? ∨
        h ∈ Registry.replay t.registryIndex (xs.filterMap inner?) := by
  rw [h.registry]
  refine ⟨fun hall h hh => hall h (hperm.subset (List.mem_append_right _ hh)), ?_⟩
  intro hleft h hh
  rcases List.mem_append.1 (hperm.symm.subset hh) with hown | hh
  · obtain ⟨x, hx, hcall⟩ := List.mem_filterMap.1 hown
    exact .inl (List.mem_filterMap.2 ⟨x, hx, called?_of_own? hcall⟩)
  · exact hleft h hh

/-- The handles that a drain has not come to are lost when no abort call records or aborts. -/
theorem Trail.drops {s u : Site} {a : Except Fault Reply} {xs : List Course} {left : List Handle}
    (trail : Trail self ⟨s, .asked ⟨t, .drain⟩, []⟩ xs ⟨u, .answered a, []⟩)
    (hperm : (xs.filterMap own? ++ left).Perm (s.registry t.registryIndex).members)
    (hquiet : ∀ e ∈ xs.filterMap inner?, e.request.spares ∧ ∀ h, e.request ≠ .record h) :
    ∀ h ∈ left, h ∉ xs.filterMap called? ∧ h ∉ u.registry t.registryIndex := by
  have hcalls : xs.filterMap called? = xs.filterMap own? := by
    have hall := (trail.called fun e he => (hquiet e he).1).2
    simpa [List.filterMap_cons, called?, own?] using hall
  have hdraining := trail.draining.resolve_left (by simp)
  have hnodup := hperm.symm.nodup (s.registry t.registryIndex).nodup
  intro h hh
  constructor
  · rw [hcalls]
    exact fun hown => (List.nodup_append.1 hnodup).2.2 h hown h hh rfl
  · rw [hdraining.registry]
    intro hm
    obtain ⟨e, he, -, hrecord⟩ := Registry.recorded_of_mem_replay hm
    exact (hquiet e he).2 h hrecord

end

end Course

namespace Site

open Course

/-- A drain that comes to its end has made an abort call on every handle that was tracked. One that
ends early does so in a fatal fault, that of the last handle that it came to. It then keeps every
handle, aborted or tracked, if and only if the requests of abort calls have seen to those that it
has not come to; if abort calls neither record nor abort, all these are lost. -/
theorem drain_keeps_iff (s : Site) (self t : Target) (xs : List Course) (u : Site)
    (a : Except Fault Reply)
    (trail : Trail self ⟨s, .asked ⟨t, .drain⟩, []⟩ xs ⟨u, .answered a, []⟩) :
    ∃ left, (xs.filterMap own? ++ left).Perm (s.registry t.registryIndex).members ∧
      (left = [] ∧ a = .ok (.count (s.registry t.registryIndex).members.length) ∨
        ∃ f k, a = .error f ∧ ¬ f.isOrdinary ∧ (xs.filterMap own?).getLast? = some k ∧
          u.journal.head? = some (.failed k f)) ∧
      ((∀ h ∈ s.registry t.registryIndex,
          h ∈ xs.filterMap called? ∨ h ∈ u.registry t.registryIndex) ↔
        ∀ h ∈ left, h ∈ xs.filterMap called? ∨
          h ∈ Registry.replay t.registryIndex (xs.filterMap inner?)) ∧
      ((∀ e ∈ xs.filterMap inner?, e.request.spares ∧ ∀ h, e.request ≠ .record h) →
        ∀ h ∈ left, h ∉ xs.filterMap called? ∧ h ∉ u.registry t.registryIndex) := by
  have hdraining := trail.draining.resolve_left (by simp)
  obtain ⟨left, hperm, hend⟩ := hdraining.answered
  exact ⟨left, hperm, hend, hdraining.keeps_iff hperm, trail.drops hperm⟩

/-- Two transports. The abort call on the first records a third one and is interrupted. -/
def interrupted : Site :=
  (({} : Site).setTransport "a"
      { reaction := fun _ =>
          { requests := [.record "c"]
            fault := some (.raised (Kind.named "KeyboardInterrupt") (some "stop")) } }).setRegistry 0
    ((Registry.empty.insert "a").insert "b")

theorem drain_keeps_iff_interrupted :
    let t := Target.registry 0
    let r := interrupted.perform t t .drain
    ∃ xs, Trail t ⟨interrupted, .asked ⟨t, .drain⟩, []⟩ xs ⟨r.2, .answered r.1, []⟩ ∧
      ∃ left f k, (xs.filterMap own? ++ left).Perm ["a", "b"] ∧ r.1 = .error f ∧
        ¬ f.isOrdinary ∧ (xs.filterMap own?).getLast? = some k ∧
        r.2.journal.head? = some (.failed k f) := by
  intro t r
  obtain ⟨xs, hxs⟩ := trail_perform interrupted t t .drain
  obtain ⟨left, hperm, hend, -⟩ := drain_keeps_iff interrupted t t xs r.2 r.1 hxs
  rcases hend with ⟨_, hok⟩ | ⟨f, k, hf, hfatal, hlast, hhead⟩
  · cases hok
  · exact ⟨xs, hxs, left, f, k, hperm, hf, hfatal, hlast, hhead⟩

/-- The second transport was tracked, and now is neither aborted nor tracked. -/
theorem interrupted_drain_drops :
    let r := interrupted.perform (.registry 0) (.registry 0) .drain
    (interrupted.registry 0).members = ["a", "b"] ∧
    r.1 = .error (.raised (Kind.named "KeyboardInterrupt") (some "stop")) ∧
    (r.2.registry 0).members = ["c"] ∧ (r.2.transport "a").aborts = 1 ∧
    (r.2.transport "b").aborts = 0 :=
  ⟨by decide, rfl, by decide, by decide, by decide⟩

end Site
end Linkcut
