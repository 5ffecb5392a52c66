import Linkcut.Proofs.Controller.Alike
import Linkcut.Proofs.Controller.Onsets
import Linkcut.Proofs.Controller.Stages
import Linkcut.Proofs.Site.Ending

/-!
Duplicate signals. A signal for a session whose sweep is pending is counted, twice, and told to the
log. It can be left out of a run, and any number of others with it: whatever the controller does
afterwards it does all the same, and at the same instants.
-/

set_option autoImplicit false

namespace Linkcut

/-- The counters of a duplicate signal. -/
def repeatCounters : List Counter := [.signals, .duplicates]

/-- The tallies without `n` duplicate signals. -/
def Counters.without (n : Nat) (t : Counters Int) : Counters Int :=
  (t.add .signals (-n)).add .duplicates (-n)

theorem Counters.get_without (n : Nat) (t : Counters Int) (k : Counter) :
    (t.without n).get k = if k ∈ repeatCounters then t.get k - n else t.get k := by
  cases k <;> simp [without, repeatCounters, Int.sub_eq_add_neg]

/-- The figures of a manager show its counters. -/
def Reply.without (n : Nat) : Reply → Reply
  | .manager live closing counters => .manager live closing (counters.without n)
  | r => r

/-- A reply that shows no counters. -/
def Reply.IsPlain (r : Reply) : Prop := ∀ live closing t, r ≠ .manager live closing t

theorem Reply.mask_of_isPlain {r : Reply} (h : r.IsPlain) (hidden : List Counter) :
    r.mask hidden = r := by
  cases r with
  | manager live closing t => exact absurd rfl (h live closing t)
  | _ => rfl

theorem Reply.without_of_isPlain {r : Reply} (h : r.IsPlain) (n : Nat) : r.without n = r := by
  cases r with
  | manager live closing t => exact absurd rfl (h live closing t)
  | _ => rfl

namespace Controller

def Answer.without (n : Nat) : Answer → Answer
  | .reply r => .reply (r.map (Reply.without n))
  | a => a

@[simp] theorem Answer.without_ended (n : Nat) (f : Option Fault) :
    (Answer.ended f).without n = Answer.ended f := by
  cases f <;> rfl

/-- The abort calls that were made since the site was `s`. -/
def abortsSince (s u : Site) : List (Option Nat × Handle) := u.aborts.drop s.aborts.length

/-- The abort calls of a sweep, each with its instant. -/
def Onset.calls (o : Onset) : List (Instant × Option Nat × Handle) :=
  (abortsSince o.start.site o.after.site).map (o.time, ·)

/-- The abort calls of a stage, each with its instant: the clock moves with the sweeps that run
while time passes, and with nothing else. -/
def Stage.calls (s : Stage) : List (Instant × Option Nat × Handle) :=
  match s.command with
  | .advance _ => (s.before.onsetsOf s.command).flatMap Onset.calls
  | _ => (abortsSince s.before.site s.after.site).map (s.before.scheduler.now, ·)

/-- Whether the stage is a signal for a session whose sweep is pending. -/
def Stage.isDuplicate (s : Stage) : Bool :=
  match s.command with
  | .signal sid => s.before.scheduler.isArmed sid
  | _ => false

/-- What its caller is told when a probe has come to its end. -/
def told : Option Fault × Controller → Except Fault Progress × Controller
  | (none, c) => (.ok .finished, c)
  | (some f, c) => (.error f, c)

/-- The same controller over another site. -/
def Beside (c c' : Controller) : Prop := ∃ s, c' = { c with site := s }

namespace Beside

variable {c c' : Controller}

theorem afterProbe (h : Beside c c') (sid : Sid) :
    Beside (c.afterProbe sid) (c'.afterProbe sid) := by
  obtain ⟨s, rfl⟩ := h
  simp only [Controller.afterProbe]
  split <;> exact ⟨_, rfl⟩

theorem endProbe (h : Beside c c') (sid : Sid) (fault : Option Fault) :
    (c'.endProbe sid fault).1 = (c.endProbe sid fault).1 ∧
      Beside (c.endProbe sid fault).2 (c'.endProbe sid fault).2 := by
  obtain ⟨s, rfl⟩ := h
  have hcounted : ∀ k n, Beside (c.count k n) ({ c with site := s }.count k n) :=
    fun k n => ⟨_, rfl⟩
  cases fault with
  | none => exact ⟨rfl, (hcounted _ _).afterProbe sid⟩
  | some f =>
    simp only [Controller.endProbe]
    split
    · exact ⟨rfl, afterProbe ⟨_, rfl⟩ sid⟩
    · exact ⟨rfl, s, rfl⟩

theorem told {r r' : Option Fault × Controller} (h : r'.1 = r.1 ∧ Beside r.2 r'.2) :
    (Controller.told r').1 = (Controller.told r).1 ∧
      Beside (Controller.told r).2 (Controller.told r').2 := by
  obtain ⟨f, d⟩ := r
  obtain ⟨f', d'⟩ := r'
  obtain ⟨rfl, hd⟩ := h
  cases f' <;> exact ⟨rfl, hd⟩

theorem connect (h : Beside c c') (sid : Sid) (probe : Probe) :
    (c'.connect sid probe).1 = (c.connect sid probe).1 ∧
      Beside (c.connect sid probe).2 (c'.connect sid probe).2 := by
  have hopened : Beside (c.opened sid) (c'.opened sid) := by
    obtain ⟨s, rfl⟩ := h
    exact ⟨_, rfl⟩
  cases probe with
  | held name =>
    obtain ⟨s, rfl⟩ := h
    exact ⟨rfl, _, rfl⟩
  | delivered => exact ⟨rfl, (hopened.endProbe sid none).2⟩
  | failed f => exact told (hopened.endProbe sid (some f))

theorem release (h : Beside c c') (name : String) (fault : Option Fault) :
    (c'.release name fault).1 = (c.release name fault).1 ∧
      Beside (c.release name fault).2 (c'.release name fault).2 := by
  obtain ⟨s, rfl⟩ := h
  unfold Controller.release
  dsimp only
  cases c.inFlight.lookup name with
  | none => exact ⟨rfl, s, rfl⟩
  | some sid =>
    have hrest : Beside { c with inFlight := c.inFlight.eraseP (·.1 == name) }
        { c with site := s, inFlight := c.inFlight.eraseP (·.1 == name) } := ⟨s, rfl⟩
    exact told (hrest.endProbe sid fault)

theorem disconnect (h : Beside c c') (sid : Sid) (reason : Value) :
    Beside (c.disconnect sid reason) (c'.disconnect sid reason) := by
  obtain ⟨s, rfl⟩ := h
  unfold Controller.disconnect
  dsimp only
  split <;> exact ⟨_, rfl⟩

theorem onConnect (h : Beside c c') (sid : Sid) (args : List Value) (probe : Probe) :
    (c'.onConnect sid args probe).1 = (c.onConnect sid args probe).1 ∧
      Beside (c.onConnect sid args probe).2 (c'.onConnect sid args probe).2 := by
  simp only [Controller.onConnect]
  split
  · exact h.connect sid probe
  · exact ⟨rfl, h⟩

theorem onDisconnect (h : Beside c c') (sid : Sid) (args : List Value) :
    (c'.onDisconnect sid args).1 = (c.onDisconnect sid args).1 ∧
      Beside (c.onDisconnect sid args).2 (c'.onDisconnect sid args).2 := by
  simp only [Controller.onDisconnect]
  split
  · exact ⟨rfl, h.disconnect sid _⟩
  · exact ⟨rfl, h⟩

theorem signal (h : Beside c c') (sid : Sid) :
    (c'.signal sid).1 = (c.signal sid).1 ∧ Beside (c.signal sid).2 (c'.signal sid).2 := by
  obtain ⟨s, rfl⟩ := h
  cases hs : c.scheduler.isArmed sid with
  | true =>
    rw [c.signal_of_armed sid hs, signal_of_armed { c with site := s } sid hs]
    exact ⟨rfl, _, rfl⟩
  | false =>
    cases hf : c.scheduler.delay.startFault? with
    | some f =>
      rw [c.signal_of_fault sid hs hf, signal_of_fault { c with site := s } sid hs hf]
      exact ⟨rfl, _, rfl⟩
    | none =>
      rw [c.signal_of_free sid hs hf, signal_of_free { c with site := s } sid hs hf]
      simp only [delayMillis]
      split <;> exact ⟨rfl, _, rfl⟩

theorem shutdown (h : Beside c c') :
    c'.shutdown.1 = c.shutdown.1 ∧ Beside c.shutdown.2 c'.shutdown.2 := by
  obtain ⟨s, rfl⟩ := h
  simp only [Controller.shutdown]
  split <;> exact ⟨rfl, _, rfl⟩

/-- A sweep does the same to sessions where it does the same to connections. -/
theorem fire {hidden : List Counter} (h : Beside c c') (halike : Alike hidden c c') (sid : Sid) :
    Beside (c.fire sid).2 (c'.fire sid).2 := by
  have hswept : (c'.sweep sid).1 = (c.sweep sid).1 ∧ Beside (c.sweep sid).2 (c'.sweep sid).2 := by
    have hdrain := halike.site.sweep
      (Site.respects_abort hidden (.manager c.manager) Site.nestingLimit) (.manager c.manager)
    have htracked := halike.site.registries c.manager.registry
    obtain ⟨s, rfl⟩ := h
    simp only [Controller.sweep, beginSweep] at htracked ⊢
    rw [htracked]
    generalize Site.sweep _ c.site _ = r at hdrain ⊢
    generalize Site.sweep _ s _ = r' at hdrain ⊢
    obtain ⟨a, hafter⟩ := hdrain
    cases a <;> exact ⟨rfl, _, rfl⟩
  simp only [Controller.fire]
  generalize c.sweep sid = r at hswept ⊢
  generalize c'.sweep sid = r' at hswept ⊢
  obtain ⟨f, d⟩ := r
  obtain ⟨f', d'⟩ := r'
  obtain ⟨hfault, hd⟩ := hswept
  obtain rfl : f' = f := hfault
  obtain ⟨s, rfl⟩ : Beside d d' := hd
  cases f' with
  | none => exact ⟨s, rfl⟩
  | some f =>
    dsimp only
    split <;> exact ⟨_, rfl⟩

end Beside

/-- Only a report shows counters: what leaves other replies as they are changes no other answer. -/
theorem request_map (c : Controller) {q : Request} (hq : q ≠ .report) {f : Reply → Reply}
    (hf : ∀ r : Reply, r.IsPlain → f r = r) : (c.request q).1.map f = (c.request q).1 := by
  have hcount : ∀ a : Except Fault Nat, (a.map Reply.count).map f = a.map Reply.count := by
    intro a
    cases a with
    | error g => rfl
    | ok n => exact congrArg Except.ok (hf _ (by simp [Reply.IsPlain]))
  cases q with
  | report => exact absurd rfl hq
  | drain => exact hcount _
  | containsValue v =>
    simp only [Controller.request, Site.perform, Site.answer]
    cases v.key 0 with
    | error g => rfl
    | ok k => exact congrArg Except.ok (hf _ (by simp [Reply.IsPlain]))
  | abort h =>
    simp only [Controller.request, Site.perform, Site.answer]
    split
    · exact congrArg Except.ok (hf _ (by simp [Reply.IsPlain]))
    · rfl
  | _ => exact congrArg Except.ok (hf _ (by simp [Reply.IsPlain]))

/-- The controller as it is without `n` duplicate signals of its past. -/
structure Spared (n : Nat) (c c' : Controller) : Prop where
  alike : Alike repeatCounters c c'
  beside : Beside c c'
  fewer : ∀ k ∈ repeatCounters, c'.tally k = c.tally k - n

namespace Spared

variable {n : Nat} {c c' : Controller}

theorem refl (c : Controller) : Spared 0 c c :=
  ⟨.refl c, ⟨c.site, rfl⟩, fun k _ => by simp⟩

section Same

variable (h : Spared n c c')
include h

theorem manager : c'.manager = c.manager := h.alike.manager

theorem scheduler : c'.scheduler = c.scheduler := by
  obtain ⟨s, rfl⟩ := h.beside
  rfl

theorem sessions : c'.sessions = c.sessions := by
  obtain ⟨s, rfl⟩ := h.beside
  rfl

theorem inFlight : c'.inFlight = c.inFlight := by
  obtain ⟨s, rfl⟩ := h.beside
  rfl

theorem sent : c'.sent = c.sent := by
  obtain ⟨s, rfl⟩ := h.beside
  rfl

theorem aborts : c'.site.aborts = c.site.aborts :=
  h.alike.site.observed Event.abort? fun e => by cases e <;> rfl

theorem tallies :
    c'.site.tallies c'.manager.counters = (c.site.tallies c.manager.counters).without n := by
  ext k
  rw [Counters.get_without]
  split
  · rename_i hk
    exact h.fewer k hk
  · rename_i hk
    rw [h.manager]
    exact h.alike.site.tallies _ k hk

end Same

/-- A signal that is a duplicate is left out. -/
theorem duplicate (h : Spared n c c') {sid : Sid} (hs : c.scheduler.isArmed sid) :
    Spared (n + 1) (c.signal sid).2 c' := by
  have hcounted : Aside repeatCounters c ((c.count .signals 1).count .duplicates 1) :=
    (aside_count c 1 (by decide)).trans (aside_count _ 1 (by decide))
  have halike : Alike repeatCounters c (c.signal sid).2 :=
    (Alike.of_aside hcounted (List.Subset.refl _)).trans (.signal_of_armed c sid hs)
  refine ⟨halike.symm.trans h.alike, ?_, fun k hk => ?_⟩
  · obtain ⟨s, rfl⟩ := h.beside
    rw [c.signal_of_armed sid hs]
    exact ⟨s, rfl⟩
  · have hone : (if k = .signals then 1 else 0) +
        (if k = .duplicates ∧ c.scheduler.isArmed sid then 1 else 0) = (1 : Int) := by
      rcases List.mem_pair.1 hk with rfl | rfl
      · simp
      · simp [hs]
    rw [h.fewer k hk, tally_signal]
    omega

/-- What counts no signals keeps the difference. -/
theorem of_kept (h : Spared n c c') {f : Controller → Controller}
    (hkept : ∀ x, ∀ k ∈ repeatCounters, (f x).tally k = x.tally k)
    (halike : Alike repeatCounters (f c) (f c')) (hbeside : Beside (f c) (f c')) :
    Spared n (f c) (f c') :=
  ⟨halike, hbeside, fun k hk => by rw [hkept c' k hk, hkept c k hk, h.fewer k hk]⟩

theorem signal (h : Spared n c c') (sid : Sid) :
    (c'.signal sid).1 = (c.signal sid).1 ∧ Spared n (c.signal sid).2 (c'.signal sid).2 := by
  obtain ⟨hanswer, hbeside⟩ := h.beside.signal sid
  have harmed : c'.scheduler.isArmed sid = c.scheduler.isArmed sid := by rw [h.scheduler]
  refine ⟨hanswer, h.alike.signal harmed, hbeside, fun k hk => ?_⟩
  rw [tally_signal, tally_signal, harmed, h.fewer k hk]
  omega

theorem fire (h : Spared n c c') (sid : Sid) :
    (c'.fire sid).1 = (c.fire sid).1 ∧ Spared n (c.fire sid).2 (c'.fire sid).2 := by
  obtain ⟨hfault, halike⟩ := h.alike.fire sid sid
  have hother : ∀ k ∈ repeatCounters, k.ofConnections = false ∧ k ≠ .executed := by decide
  exact ⟨hfault, h.of_kept (f := fun x => (x.fire sid).2)
    (fun x k hk => x.tally_fire_of_ne sid (hother k hk).1 (hother k hk).2) halike
    (h.beside.fire h.alike sid)⟩

theorem of_session (h : Spared n c c') {k : Command} (hk : k.isOfSession)
    (halike : Alike repeatCounters (c.step k).2 (c'.step k).2)
    (hbeside : Beside (c.step k).2 (c'.step k).2) : Spared n (c.step k).2 (c'.step k).2 := by
  have hother : ∀ j ∈ repeatCounters, j ∉ sessionCounters := by decide
  exact h.of_kept (f := fun x => (x.step k).2)
    (fun x j hj => (aside_step x hk).tally (hother j hj)) halike hbeside

theorem shutdown (h : Spared n c c') :
    c'.shutdown.1 = c.shutdown.1 ∧ Spared n c.shutdown.2 c'.shutdown.2 := by
  obtain ⟨hanswer, hbeside⟩ := h.beside.shutdown
  have hother : ∀ j ∈ repeatCounters, j ∉ [Counter.cancelled] := by decide
  have halike := h.alike.shutdown (by rw [h.scheduler])
  exact ⟨hanswer, h.of_kept (f := fun x => x.shutdown.2)
    (fun x j hj => (aside_shutdown x).tally (hother j hj)) halike hbeside⟩

theorem request (h : Spared n c c') (q : Request) :
    (c'.request q).1 = (c.request q).1.map (Reply.without n) ∧
      Spared n (c.request q).2 (c'.request q).2 := by
  obtain ⟨hmasked, halike⟩ := h.alike.request q
  have hother : ∀ j ∈ repeatCounters, j.ofConnections = false := by decide
  have hkept : ∀ (x : Controller), ∀ j ∈ repeatCounters, (x.request q).2.tally j = x.tally j :=
    fun x j hj => (Site.grows_perform x.site _ _ q).tallies x.manager.counters j (hother j hj)
  have hbeside : Beside (c.request q).2 (c'.request q).2 := by
    obtain ⟨s, rfl⟩ := h.beside
    exact ⟨_, rfl⟩
  refine ⟨?_, h.of_kept (f := fun x => (x.request q).2) hkept halike hbeside⟩
  by_cases hq : q = .report
  · subst hq
    have htallies := h.tallies
    have htracked := h.alike.site.registries c.manager.registry
    rw [h.manager] at htallies
    have hreport : ∀ x : Controller, (x.request .report).1 = x.site.managerReport x.manager :=
      fun _ => rfl
    simp only [hreport, Site.managerReport, h.manager, htracked, h.alike.site.closingCount,
      htallies]
    cases c.site.closingCount (c.site.registry c.manager.registry).members with
    | error f => rfl
    | ok k => rfl
  · have hplain : ∀ x : Controller, (x.request q).1.map (Reply.mask repeatCounters) =
        (x.request q).1 := fun x => request_map x hq fun r hr => r.mask_of_isPlain hr _
    rw [request_map c hq fun r hr => r.without_of_isPlain hr n, ← hplain c', ← hplain c]
    exact hmasked

theorem withScheduler (h : Spared n c c') (u : Scheduler Sid Unit) :
    Spared n { c with scheduler := u } { c' with scheduler := u } := by
  refine ⟨⟨h.alike.manager, h.alike.site⟩, ?_, h.fewer⟩
  obtain ⟨s, rfl⟩ := h.beside
  exact ⟨s, rfl⟩

theorem abortsSince {m : Nat} {d d' : Controller} (h : Spared n c c') (hd : Spared m d d') :
    Controller.abortsSince c'.site d'.site = Controller.abortsSince c.site d.site := by
  rw [Controller.abortsSince, Controller.abortsSince, h.aborts, hd.aborts]

theorem fireDue (h : Spared n c c') (limit : Instant) (m : Nat) :
    (c'.fireDue limit m).1 = (c.fireDue limit m).1 ∧
      Spared n (c.fireDue limit m).2 (c'.fireDue limit m).2 := by
  refine fireDue_rel (R := Spared n) (fun x x' hx hp => ?_) (fun x x' job u hx hp => ?_) h m
  · rw [hx.scheduler]
    exact hp
  · rw [← hx.scheduler] at hp
    exact ⟨job, u, hp, (hx.withScheduler u).fire job.key⟩

theorem onsetsDue (h : Spared n c c') (limit : Instant) (m : Nat) :
    (Controller.onsetsDue limit m c').flatMap Onset.calls =
      (Controller.onsetsDue limit m c).flatMap Onset.calls := by
  induction m generalizing c c' with
  | zero => rfl
  | succ m ih =>
    simp only [Controller.onsetsDue, h.scheduler]
    cases c.scheduler.popDue limit with
    | none => rfl
    | some due =>
      obtain ⟨job, u⟩ := due
      have hpopped := h.withScheduler u
      obtain ⟨-, hfired⟩ := hpopped.fire job.key
      have hcalls : (⟨job.key, { c' with scheduler := u }⟩ : Onset).calls =
          (⟨job.key, { c with scheduler := u }⟩ : Onset).calls := by
        simp only [Onset.calls, Onset.after, hpopped.abortsSince hfired, Onset.time]
      simp only [List.flatMap_cons, hcalls, ih hfired]

theorem advance (h : Spared n c c') (micros : Nat) :
    (c'.advance micros).1 = (c.advance micros).1 ∧
      Spared n (c.advance micros).2 (c'.advance micros).2 := by
  obtain ⟨hfaults, hall⟩ := h.fireDue (c.scheduler.now + micros) c.scheduler.loop.timers.length
  simp only [Controller.advance, h.scheduler, hall.scheduler]
  exact ⟨hfaults, hall.withScheduler _⟩

theorem step (h : Spared n c c') (k : Command) :
    (c'.step k).1 = (c.step k).1.without n ∧ Spared n (c.step k).2 (c'.step k).2 := by
  cases k with
  | connect sid args probe =>
    obtain ⟨hanswer, hbeside⟩ := h.beside.onConnect sid args probe
    refine ⟨congrArg Answer.handler hanswer, h.of_session rfl ?_ hbeside⟩
    simp only [Controller.step, onConnect]
    split
    · exact h.alike.connect sid probe
    · exact h.alike
  | release name fault =>
    obtain ⟨hanswer, hbeside⟩ := h.beside.release name fault
    have halike : Alike repeatCounters (c.release name fault).2 (c'.release name fault).2 :=
      h.alike.release (by rw [h.inFlight]) fault
    exact ⟨congrArg Answer.handler hanswer, h.of_session rfl halike hbeside⟩
  | disconnect sid args =>
    obtain ⟨hanswer, hbeside⟩ := h.beside.onDisconnect sid args
    refine ⟨?_, h.of_session rfl ?_ hbeside⟩
    · simp only [Controller.step, hanswer, Answer.without_ended]
    · simp only [Controller.step, onDisconnect]
      split
      · exact h.alike.disconnect (by rw [h.sessions]) _
      · exact h.alike
  | signal sid =>
    obtain ⟨hanswer, hafter⟩ := h.signal sid
    refine ⟨?_, hafter⟩
    simp only [Controller.step, hanswer, Answer.without_ended]
  | request q =>
    obtain ⟨hanswer, hafter⟩ := h.request q
    exact ⟨congrArg Answer.reply hanswer, hafter⟩
  | advance micros =>
    obtain ⟨hfaults, hafter⟩ := h.advance micros
    exact ⟨congrArg Answer.escaped hfaults, hafter⟩
  | shutdown =>
    obtain ⟨hanswer, hafter⟩ := h.shutdown
    exact ⟨congrArg Answer.cancelled hanswer, hafter⟩

theorem calls (h : Spared n c c') (k : Command) :
    (⟨c', k⟩ : Stage).calls = (⟨c, k⟩ : Stage).calls := by
  cases k with
  | advance micros =>
    simp only [Stage.calls, onsetsOf, h.scheduler]
    exact h.onsetsDue _ _
  | _ => simp only [Stage.calls, Stage.after, h.scheduler, h.abortsSince (h.step _).2]

end Spared

theorem map_snd_at (t : Instant) (l : List (Option Nat × Handle)) :
    (l.map (t, ·)).map Prod.snd = l := by
  simp [Function.comp_def]

theorem aborts_of_suffix {s u : Site} (h : s.journal <:+ u.journal) :
    u.aborts = s.aborts ++ abortsSince s u := by
  obtain ⟨l, hl⟩ := Site.observed_of_suffix Event.abort? h
  rw [abortsSince, Site.aborts, Site.aborts, hl, List.drop_left]

theorem aborts_fireDue (limit : Instant) (n : Nat) (c : Controller) :
    (c.fireDue limit n).2.site.aborts =
      c.site.aborts ++ ((onsetsDue limit n c).flatMap Onset.calls).map Prod.snd := by
  induction n generalizing c with
  | zero => exact (List.append_nil _).symm
  | succ n ih =>
    simp only [fireDue, onsetsDue]
    cases c.scheduler.popDue limit with
    | none => exact (List.append_nil _).symm
    | some due =>
      obtain ⟨job, u⟩ := due
      have hfire := aborts_of_suffix (suffix_fire { c with scheduler := u } job.key)
      dsimp only
      rw [ih, hfire, List.flatMap_cons, List.map_append, Onset.calls, map_snd_at, List.append_assoc]
      rfl

/-- The abort calls of a run are those of its stages. -/
theorem aborts_step (s : Stage) :
    s.after.site.aborts = s.before.site.aborts ++ s.calls.map Prod.snd := by
  obtain ⟨c, k⟩ := s
  cases k with
  | advance micros => exact aborts_fireDue _ _ c
  | _ =>
    rw [Stage.after, aborts_of_suffix (suffix_step c _)]
    simp only [Stage.calls, Stage.after, map_snd_at]

/-- The second stage shows what the first one does, but for `n` duplicate signals before it. -/
structure Stage.SameBut (n : Nat) (s s' : Stage) : Prop where
  command : s'.command = s.command
  answer : s'.answer = s.answer.without n
  calls : s'.calls = s.calls
  tracked : ∀ i, s'.after.site.registry i = s.after.site.registry i
  transports : ∀ h, s'.after.site.transport h = s.after.site.transport h
  sessions : s'.after.sessions = s.after.sessions
  /-- The sids with a pending sweep, their deadlines, and the clock. -/
  scheduler : s'.after.scheduler = s.after.scheduler
  sent : s'.after.sent = s.after.sent
  counters : s'.after.site.tallies s'.after.manager.counters =
    (s.after.site.tallies s.after.manager.counters).without n

theorem Spared.sameBut {n : Nat} {c c' : Controller} (h : Spared n c c') (k : Command) :
    Stage.SameBut n ⟨c, k⟩ ⟨c', k⟩ := by
  obtain ⟨hanswer, hafter⟩ := h.step k
  exact {
    command := rfl
    answer := hanswer
    calls := h.calls k
    tracked := hafter.alike.site.registries
    transports := hafter.alike.site.transports
    sessions := hafter.sessions
    scheduler := hafter.scheduler
    sent := hafter.sent
    counters := hafter.tallies }

/-- How many of the first `i` positions are left out. -/
def leftOut (deleted : Nat → Bool) (i : Nat) : Nat := (List.range i).countP deleted

theorem leftOut_succ (deleted : Nat → Bool) (i : Nat) :
    leftOut deleted (i + 1) = leftOut deleted i + if deleted i then 1 else 0 := by
  simp [leftOut, List.range_succ]

/-- The stages to keep, each with its position. -/
def keptStages (deleted : Nat → Bool) (c : Controller) (ks : List Command) (i : Nat) :
    List (Stage × Nat) :=
  ((c.stages ks).zipIdx i).filter fun p => !deleted p.2

theorem forall₂_keptStages (deleted : Nat → Bool) {c c' : Controller} (ks : List Command) (i : Nat)
    (hdup : ∀ p ∈ (c.stages ks).zipIdx i, deleted p.2 → p.1.isDuplicate)
    (h : Spared (leftOut deleted i) c c') :
    List.Forall₂ (fun p s' => p.1.SameBut (leftOut deleted p.2) s') (keptStages deleted c ks i)
      (c'.stages ((keptStages deleted c ks i).map (·.1.command))) := by
  induction ks generalizing c c' i with
  | nil => exact .nil
  | cons k ks ih =>
    have hhead := hdup (⟨c, k⟩, i) (by simp [stages])
    have htail : ∀ p ∈ ((c.step k).2.stages ks).zipIdx (i + 1), deleted p.2 → p.1.isDuplicate :=
      fun p hp => hdup p (by simp [stages, hp])
    have hnext := leftOut_succ deleted i
    cases hd : deleted i with
    | true =>
      -- a duplicate is left out: its effect is one more in the difference
      have hkept : keptStages deleted c (k :: ks) i =
          keptStages deleted (c.step k).2 ks (i + 1) := by
        simp [keptStages, stages, hd]
      simp only [hd, if_true] at hnext
      rw [hkept]
      refine ih (i + 1) htail ?_
      rw [hnext]
      cases k with
      | signal sid => exact h.duplicate (hhead hd)
      | _ => cases hhead hd
    | false =>
      have hkept : keptStages deleted c (k :: ks) i =
          (⟨c, k⟩, i) :: keptStages deleted (c.step k).2 ks (i + 1) := by
        simp [keptStages, stages, hd]
      simp only [hd, Bool.false_eq_true, if_false, Nat.add_zero] at hnext
      rw [hkept]
      refine .cons (h.sameBut k) (ih (i + 1) htail ?_)
      rw [hnext]
      exact (h.step k).2

/-- Duplicate signals are inert. Leave any of them out of a run, and at every step that remains the
rest of the run does the same, at the same instants, with the same answers; only the two counters of
duplicate signals are smaller, by as many as were left out before. -/
theorem duplicates_inert (c : Controller) (ks : List Command) (deleted : Nat → Bool)
    (hdup : ∀ p ∈ (c.stages ks).zipIdx, deleted p.2 → p.1.isDuplicate) :
    let kept := keptStages deleted c ks 0
    List.Forall₂ (fun p s' => p.1.SameBut (leftOut deleted p.2) s') kept
      (c.stages (kept.map (·.1.command))) :=
  forall₂_keptStages deleted ks 0 hdup (.refl c)

/-- Two connections, of which one records the other again, and a delay of one second. -/
def resilient : Controller where
  site := ({} : Site).setTransport "a" { reaction := fun _ => { requests := [.record "b"] } }
  scheduler := { delay := .whole 1 }

/-- A session is armed while its probe waits, and a signal without a session arms a sweep too. Of
the three duplicates the first and the last are left out. The first sweep aborts one connection,
which records the other, and the signal that follows it is no duplicate. -/
theorem duplicates_inert_resilient :
    let ks : List Command :=
      [.request (.record "a"), .connect "s" [] (.held "p"), .signal "s", .advance 400000,
       .signal "s", .signal "t", .release "p" none, .signal "t", .advance 600000, .request .report,
       .signal "s", .disconnect "s" [], .signal "s", .request .report, .advance 400000, .shutdown]
    let deleted : Nat → Bool := fun i => i == 4 || i == 12
    let kept := keptStages deleted resilient ks 0
    (∀ p ∈ (resilient.stages ks).zipIdx, deleted p.2 → p.1.isDuplicate) ∧
    (resilient.run ks).2.tally .duplicates = 3 ∧
    (resilient.run (kept.map (·.1.command))).2.tally .duplicates = 1 ∧
    (resilient.stages ks).flatMap Stage.calls =
      [(1000000, some 0, "a"), (1400000, some 0, "b")] ∧
    List.Forall₂ (fun p s' => p.1.SameBut (leftOut deleted p.2) s') kept
      (resilient.stages (kept.map (·.1.command))) := by
  intro ks deleted kept
  have hdup : ∀ p ∈ (resilient.stages ks).zipIdx, deleted p.2 → p.1.isDuplicate := by decide
  exact ⟨hdup, by decide, by decide, by decide, duplicates_inert resilient ks deleted hdup⟩

end Controller
end Linkcut
