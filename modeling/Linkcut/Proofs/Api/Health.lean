import Linkcut.Proofs.Controller.Figures
import Linkcut.Proofs.Double.Range

/-!
When the figures cannot be had. `/health` and `/metrics` read them in one way, and so they fail in
the same states: the one answers all the same and says that something is missing, the other does not
answer. No figure is lost where they are put together, for no two of them have one name.
-/

set_option autoImplicit false

namespace Linkcut

namespace Fault

theorem isOrdinary_leaving (sort : String) {f : Fault} (h : f.isOrdinary) :
    (f.leaving sort).isOrdinary := by
  unfold leaving
  split
  · split
    · rfl
    · exact h
  · exact h

theorem isOrdinary_noInteger (why : Double.NoInteger) : (noInteger why).isOrdinary := by
  cases why <;> rfl

end Fault

theorem Delay.isOrdinary_of_millis (d : Delay) {f : Fault} (h : d.millis = .error f) :
    f.isOrdinary := by
  rw [millis] at h
  cases hu : d.inUnits 1000 with
  | error why =>
    rw [hu] at h
    cases h
    exact Fault.isOrdinary_noInteger why
  | ok n =>
    rw [hu] at h
    cases h

/-- A delay that is no number, or too large a number once it is in milliseconds. Whole delays never
are. -/
def Delay.IsBoundless : Delay → Prop
  | flag _ | whole _ => False
  | real .nan | real (.infinite _) => True
  | real (.finite _ m e) =>
    Double.bound * (Double.scaled m e).2 ≤ (Double.scaled m e).1 * 1000

instance : DecidablePred Delay.IsBoundless
  | .flag _ | .whole _ => inferInstanceAs (Decidable False)
  | .real .nan | .real (.infinite _) => inferInstanceAs (Decidable True)
  | .real (.finite ..) => inferInstanceAs (Decidable (_ ≤ _))

theorem Delay.millis_eq_error_iff (d : Delay) : (∃ f, d.millis = .error f) ↔ d.IsBoundless := by
  rw [millis]
  match d with
  | flag b => simp [inUnits, IsBoundless, Except.mapError]
  | whole n => simp [inUnits, IsBoundless, Except.mapError]
  | real .nan => simp [inUnits, IsBoundless, Except.mapError, Double.times, Double.round]
  | real (.infinite s) => simp [inUnits, IsBoundless, Except.mapError, Double.times, Double.round]
  | real (.finite s m e) =>
    have hinfinite := Double.ofRatio_eq_infinite_iff s ((Double.scaled m e).1 * 1000)
      (Double.scaled_pos m e)
    rw [IsBoundless, ← hinfinite]
    rcases Double.ofRatio_cases s ((Double.scaled m e).1 * 1000) (Double.scaled m e).2 with
      h | ⟨k, j, h⟩
    · simp [inUnits, Except.mapError, Double.times, h, Double.round]
    · simp [inUnits, Except.mapError, Double.times, h, Double.round]

namespace Site

/-- Transports are asked whether they are closing until one of them cannot tell. -/
theorem closingCount_eq_error_iff (s : Site) (hs : List Handle) :
    (∃ f, s.closingCount hs = .error f) ↔ ∃ h ∈ hs, (s.transport h).closingFault ≠ none := by
  induction hs with
  | nil => simp [closingCount]
  | cons h hs ih =>
    simp only [List.mem_cons, exists_eq_or_imp]
    rw [closingCount, ← ih]
    cases hf : (s.transport h).closingFault with
    | some f => simp
    | none => cases s.closingCount hs <;> simp [Except.map]

theorem isOrdinary_of_closingCount {s : Site} {hs : List Handle} {f : Fault}
    (hordinary : ∀ h ∈ hs, ∀ g, (s.transport h).closingFault = some g → g.isOrdinary)
    (h : s.closingCount hs = .error f) : f.isOrdinary := by
  induction hs with
  | nil => cases h
  | cons k ks ih =>
    rw [closingCount] at h
    cases hk : (s.transport k).closingFault with
    | some g =>
      rw [hk] at h
      cases h
      exact Fault.isOrdinary_leaving _ (hordinary k List.mem_cons_self g hk)
    | none =>
      rw [hk] at h
      cases hrest : s.closingCount ks with
      | error g =>
        rw [hrest] at h
        cases h
        exact ih (fun j hj => hordinary j (List.mem_cons_of_mem _ hj)) hrest
      | ok n =>
        rw [hrest] at h
        cases h

end Site

namespace Controller

def tracked (c : Controller) : List Handle := (c.site.registry c.manager.registry).members

/-- Some tracked transport cannot tell whether it is closing, or the delay is in no unit. -/
def IsTroubled (c : Controller) : Prop :=
  (∃ h ∈ c.tracked, (c.site.transport h).closingFault ≠ none) ∨ ∃ f, c.delayMillis = .error f

/-- Whatever a tracked transport may fail with is caught by the handlers of ordinary faults. -/
def IsOrdinary (c : Controller) : Prop :=
  ∀ h ∈ c.tracked, ∀ f, (c.site.transport h).closingFault = some f → f.isOrdinary

/-- Figures cannot be had from a transport or a delay, or they can. -/
theorem statsFields_cases (c : Controller) :
    (c.IsTroubled ∧ ∃ f, c.statsFields = .error f ∧ (c.IsOrdinary → f.isOrdinary)) ∨
    ¬ c.IsTroubled ∧ ∃ closing r,
      let m := Reply.manager c.live closing (c.site.tallies c.manager.counters)
      c.site.managerReport c.manager = .ok m ∧ c.report = .ok r ∧
      c.statsFields = .ok (m.fields ++ r.fields) := by
  have hclosing := Site.closingCount_eq_error_iff c.site c.tracked
  have hmanager : c.site.managerReport c.manager = (c.site.closingCount c.tracked).map fun n =>
      .manager c.live n (c.site.tallies c.manager.counters) := rfl
  have hstats : c.statsFields = (c.site.closingCount c.tracked).bind fun n => c.report.map fun r =>
      (Reply.manager c.live n (c.site.tallies c.manager.counters)).fields ++ r.fields := by
    rw [statsFields, collectStats_eq, tracked]
  rw [hstats, hmanager, report_eq]
  cases hc : c.site.closingCount c.tracked with
  | error f =>
    exact .inl ⟨.inl (hclosing.1 ⟨f, hc⟩), f, rfl,
      fun ho => Site.isOrdinary_of_closingCount ho hc⟩
  | ok closing =>
    cases hm : c.delayMillis with
    | error f => exact .inl ⟨.inr ⟨f, hm⟩, f, rfl, fun _ => c.scheduler.delay.isOrdinary_of_millis hm⟩
    | ok millis =>
      refine .inr ⟨?_, closing, _, rfl, rfl, rfl⟩
      rintro (hsome | ⟨f, hf⟩)
      · obtain ⟨f, hf⟩ := hclosing.2 hsome
        rw [hc] at hf
        cases hf
      · rw [hm] at hf
        cases hf

end Controller

namespace Api

/-- The same but for what the log was told. -/
def SameButLog (a b : Api) : Prop :=
  ∃ entries : List Log.Entry, b = { a with controller := { a.controller with
    site := { a.controller.site with
      journal := entries.map Event.logged ++ a.controller.site.journal } } }

theorem merged_eq (a : Api) {stats : List (String × Value)}
    (h : (["status", "service", "version", "environment"] ++ stats.map Prod.fst).Nodup) :
    a.merged stats = a.fixedFields ++ stats := by
  have hnodup : ((a.fixedFields ++ stats).map Prod.fst).Nodup := by
    rw [List.map_append]
    exact h
  have hfixed : (a.fixedFields.map Prod.fst).Nodup := by
    rw [List.map_append] at hnodup
    exact hnodup.of_append_left
  rw [merged, Names.ofPairs_of_nodup hfixed, Names.enterAll_of_nodup hnodup]

theorem health_of_ok (a : Api) {fields : Names Value}
    (h : a.controller.statsFields = .ok fields) : a.health = (.ok (a.merged fields), a) := by
  rw [health, stats_eq, h]

theorem health_of_error (a : Api) {f : Fault} (hf : a.controller.statsFields = .error f)
    (hordinary : f.isOrdinary) : a.health = (.ok (a.merged unavailable),
      a.log .warning "Failed to get stats in health check" [("error", .str f.message)]) := by
  rw [health, stats_eq, hf]
  exact if_pos hordinary

theorem showPage_metrics_snd (a : Api) (most : Nat) : (a.showPage most .metrics).2 = a := by
  rw [showPage, scrape_eq]
  cases a.controller.statsFields.bind fun fields =>
      Exposition.expose Exposition.defaultScope (.ofFields fields) a.time with
  | ok text => rfl
  | error f =>
    dsimp only
    split <;> rfl

theorem merged_unavailable (a : Api) : a.merged unavailable = a.fixedFields ++ unavailable :=
  a.merged_eq (by decide)

theorem merged_figures (a : Api) (live closing : Nat) (t : Counters Int) (r : SessionReport) :
    a.merged ((Reply.manager live closing t).fields ++ r.fields) =
      a.fixedFields ++ ((Reply.manager live closing t).fields ++ r.fields) :=
  a.merged_eq (Controller.nodup_figures live closing t r)

/-- The fault that would end a loop over connections. -/
def stopping : Fault := .raised (.named "StopIteration") none

def halfSecond : Double := .finite false (2 ^ 52) (-53)

/-- The greatest number of seconds. It is past every number in milliseconds. -/
def eternity : Double := .finite false (2 ^ 53 - 1) 971

/-- One connection is tracked, which may be unable to tell whether it is closing. -/
def strained (fault : Option Fault) (delay : Double) : Api where
  controller := {
    site := (({} : Site).record (.manager {}) "a").2.setTransport "a" { closingFault := fault }
    scheduler := { delay := .real delay } }
  settings := {}

end Api
end Linkcut
