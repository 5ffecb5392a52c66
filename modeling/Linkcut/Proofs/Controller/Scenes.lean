import Linkcut.Proofs.Controller.Onsets
import Linkcut.Proofs.Controller.Signals

/-!
Scenes of a run: its points, told apart by what is under way there. While a request is answered or a
sweep is made, sessions and probes are as they were at a moment of rest.
-/

set_option autoImplicit false

namespace Linkcut.Controller

/-- What is under way. -/
inductive Activity where
  | rest
  /-- The handler of a new session, which sends its probe. -/
  | handler
  | request
  | timer
  deriving DecidableEq, Repr

/-- The points of a run with the commands that have started by then, and with what is under way. -/
inductive Scene (c : Controller) : List Command → Activity → Controller → Prop
  /-- Between commands, and between the sweeps that come due while the clock is advanced. -/
  | rest (ks : List Command) (limit : Instant) (n : Nat) :
    Scene c ks .rest ((c.run ks).2.fireDue limit n).2
  | emitting (ks : List Command) (sid : Sid) (args : List Value) (probe : Probe)
      (few : args.length ≤ 2) :
    Scene c (ks ++ [.connect sid args probe]) .handler ((c.run ks).2.opened sid)
  /-- A request is answered, and abort calls are made. -/
  | asked (ks : List Command) (q : Request) (x : Course)
      (hx : (c.run ks).2.site.Passes
        ⟨.manager (c.run ks).2.manager, ⟨.manager (c.run ks).2.manager, q⟩⟩ x) :
    Scene c (ks ++ [.request q]) .request { (c.run ks).2 with site := x.site }
  | sweeping (ks : List Command) (limit : Instant) (n : Nat) (o : Onset)
      (ho : o ∈ onsetsDue limit n (c.run ks).2) (x : Course)
      (hx : o.start.site.Passes
        ⟨.manager o.start.manager, ⟨.manager o.start.manager, .drain⟩⟩ x) :
    Scene c ks .timer { o.start.beginSweep o.sid with site := x.site }

variable {c x : Controller} {ks : List Command}

/-- A sweep begins where the sweeps before it have ended. -/
theorem start_of_onset {o : Onset} {limit : Instant} {n : Nat} (ho : o ∈ onsetsDue limit n c) :
    ∃ m job u, (c.fireDue limit m).2.scheduler.popDue limit = some (job, u) ∧
      o = ⟨job.key, { (c.fireDue limit m).2 with scheduler := u }⟩ := by
  induction n generalizing c with
  | zero => cases ho
  | succ n ih =>
    rw [onsetsDue] at ho
    split at ho
    · cases ho
    · rename_i job u hp
      rcases List.mem_cons.1 ho with rfl | ho
      · exact ⟨0, job, u, hp, rfl⟩
      · obtain ⟨m, job', u', hp', rfl⟩ := ih ho
        have hlater : (c.fireDue limit (m + 1)).2 =
            (({ c with scheduler := u }.fire job.key).2.fireDue limit m).2 := by
          rw [fireDue, hp]
        exact ⟨m + 1, job', u', by rw [hlater]; exact hp', by rw [hlater]⟩

/-- The sessions, the probes and their counters were like this at a moment of rest. -/
structure Resembles (x y : Controller) : Prop where
  sessions : x.sessions = y.sessions
  inFlight : x.inFlight = y.inFlight
  tallies : ∀ k ∈ sessionCounters, x.tally k = y.tally k

theorem Resembles.of_grows {y : Controller} {s : Site} (hg : y.site.Grows s) :
    Resembles { y with site := s } y := by
  refine ⟨rfl, rfl, fun k hk => hg.tallies y.manager.counters k ?_⟩
  revert k
  decide

theorem Scene.rests {a : Activity} (hx : c.Scene ks a x) (ha : a ≠ .handler) :
    ∃ y, c.Rests ks y ∧ Resembles x y := by
  cases hx with
  | rest ks limit n => exact ⟨_, ⟨limit, n, rfl⟩, rfl, rfl, fun _ _ => rfl⟩
  | emitting => exact absurd rfl ha
  | asked ks q x hx =>
    have hrun : (c.run (ks ++ [.request q])).2 = ((c.run ks).2.request q).2 := by
      rw [run_append]
      rfl
    have hask : Resembles ((c.run ks).2.request q).2 (c.run ks).2 :=
      .of_grows (Site.grows_perform _ _ _ q)
    have hpass : Resembles { (c.run ks).2 with site := x.site } (c.run ks).2 := .of_grows hx.grows
    refine ⟨_, ⟨0, 0, rfl⟩, ?_⟩
    change Resembles _ (c.run (ks ++ [.request q])).2
    rw [hrun]
    exact ⟨rfl, rfl, fun k hk => (hpass.tallies k hk).trans (hask.tallies k hk).symm⟩
  | sweeping ks limit n o ho x hx =>
    obtain ⟨m, job, u, _, rfl⟩ := start_of_onset ho
    have hpass := Resembles.of_grows (y := ((c.run ks).2.fireDue limit m).2) hx.grows
    exact ⟨_, ⟨limit, m, rfl⟩, rfl, rfl, hpass.tallies⟩

end Linkcut.Controller
