import Mathlib.Data.List.Induction
import Mathlib.Data.List.Nodup
import Linkcut.Stats

/-!
What is collected. The figures come out in one piece, whether they are collected step by step or
told at once, and collecting them leaves the controller as it is.
-/

set_option autoImplicit false

namespace Linkcut

section Distinct

variable {α : Type} [DecidableEq α]

theorem eraseDups_concat (l : List α) (a : α) :
    (l ++ [a]).eraseDups = if a ∈ l then l.eraseDups else l.eraseDups ++ [a] := by
  rw [List.eraseDups_append]
  split
  · rename_i h
    simp [List.removeAll, h]
  · rename_i h
    simp [List.removeAll, h, List.eraseDups_cons]

theorem nodup_eraseDups (l : List α) : l.eraseDups.Nodup := by
  induction l using List.reverseRecOn with
  | nil => exact List.nodup_nil
  | append_singleton l a ih =>
    rw [eraseDups_concat]
    split
    · exact ih
    · rename_i h
      have hnew : a ∉ l.eraseDups := by rwa [List.mem_eraseDups]
      exact List.nodup_append.2 ⟨ih, by simp, by simpa using fun b hb (e : b = a) => hnew (e ▸ hb)⟩

end Distinct

theorem tallyPhase_map (p : Phase) (n : Phase → Nat) {qs : List Phase} (h : qs.Nodup) :
    tallyPhase p (qs.map fun q => (q, n q)) =
      if p ∈ qs then qs.map (fun q => (q, if q = p then n q + 1 else n q))
      else qs.map (fun q => (q, n q)) ++ [(p, 1)] := by
  induction qs with
  | nil => rfl
  | cons q qs ih =>
    obtain ⟨hq, hqs⟩ := List.nodup_cons.1 h
    by_cases hp : q = p
    · subst hp
      have hrest : ∀ r ∈ qs, (r, if r = q then n r + 1 else n r) = (r, n r) := fun r hr => by
        rw [if_neg fun e : r = q => hq (e ▸ hr)]
      simp [tallyPhase, List.map_congr_left hrest]
    · have hp' : ¬ p = q := fun e => hp e.symm
      simp only [List.map_cons, tallyPhase, if_neg hp, ih hqs, List.mem_cons, hp', false_or]
      split <;> rfl

/-- Phases that are met one after the other are counted. -/
theorem foldl_tallyPhase (ps : List Phase) :
    ps.foldl (fun counts p => tallyPhase p counts) [] =
      ps.eraseDups.map fun p => (p, ps.count p) := by
  induction ps using List.reverseRecOn with
  | nil => rfl
  | append_singleton ps p ih =>
    have hmet : p ∈ ps.eraseDups ↔ p ∈ ps := List.mem_eraseDups
    rw [List.foldl_append, List.foldl_cons, List.foldl_nil, ih,
      tallyPhase_map p _ (nodup_eraseDups ps), eraseDups_concat, if_congr hmet rfl rfl]
    split
    · refine List.map_congr_left fun q _ => ?_
      by_cases hq : q = p
      · simp [hq]
      · simp [hq, Ne.symm hq]
    · rename_i hp
      rw [List.map_append]
      congr 1
      · refine List.map_congr_left fun q hq => ?_
        have hne : ¬ p = q := fun e => hp (e ▸ List.mem_eraseDups.1 hq)
        simp [hne]
      · simp [List.count_eq_zero_of_not_mem hp]

namespace Controller

namespace Steps

variable {α β : Type}

@[simp] theorem on_pure (a : α) (c : Controller) : (pure a : Steps α).on c = (.ok a, c) := rfl

@[simp] theorem on_get (c : Controller) : (get : Steps Controller).on c = (.ok c, c) := rfl

@[simp] theorem on_lift (r : Except Fault α) (c : Controller) :
    (liftM r : Steps α).on c = (r, c) := by
  cases r <;> rfl

theorem on_bind (m : Steps α) (f : α → Steps β) (c : Controller) : (m >>= f).on c =
    match m.on c with
    | (.ok a, c) => (f a).on c
    | (.error e, c) => (.error e, c) := by
  simp only [on, ExceptT.run_bind, StateT.run_bind]
  rcases m.run.run c with ⟨_ | a, d⟩
  · rfl
  · rfl

end Steps

/-- How many sessions are in each phase, in the order in which the phases are met. -/
def phaseCounts (c : Controller) : List (Phase × Nat) :=
  let ps := c.sessions.entries.map Prod.snd
  ps.eraseDups.map fun p => (p, ps.count p)

theorem on_countArmed (sids : List Sid) (c : Controller) :
    (countArmed sids).on c = (.ok (sids.filter c.scheduler.isArmed).length, c) := by
  induction sids with
  | nil => rfl
  | cons sid sids ih =>
    simp only [countArmed, Steps.on_bind, Steps.on_get, ih, Steps.on_pure]
    cases harmed : c.scheduler.isArmed sid <;> simp [harmed]

/-- The figures of the sessions, all at once. -/
def sessionFigures (c : Controller) (millis : Int) : SessionReport where
  active := c.sessions.size
  armed := (c.sessions.sids.filter c.scheduler.isArmed).length
  pending := c.scheduler.count
  delayMillis := millis
  phases := c.phaseCounts

theorem collect_eq (c : Controller) :
    collect.on c = (c.delayMillis.map c.sessionFigures, c) := by
  have hphases : c.sessions.entries.foldl (fun counts e => tallyPhase e.2 counts) [] =
      c.phaseCounts := by
    rw [phaseCounts, ← foldl_tallyPhase, List.foldl_map]
  simp only [collect, Steps.on_bind, Steps.on_get, on_countArmed, Steps.on_lift, hphases]
  cases c.delayMillis with
  | error f => rfl
  | ok n => rfl

theorem report_eq (c : Controller) : c.report = c.delayMillis.map c.sessionFigures := by
  rw [report, collect_eq]

theorem on_collect (c : Controller) : collect.on c = (c.report, c) := by
  rw [report_eq, collect_eq]

theorem report_eq_ok {c : Controller} {r : SessionReport} (h : c.report = .ok r) :
    ∃ millis, c.delayMillis = .ok millis ∧ r = c.sessionFigures millis := by
  rw [report_eq] at h
  cases hmillis : c.delayMillis with
  | error f =>
    rw [hmillis] at h
    cases h
  | ok millis =>
    rw [hmillis] at h
    exact ⟨millis, rfl, (Except.ok.inj h).symm⟩

theorem nodup_figures (live closing : Nat) (t : Counters Int) (r : SessionReport) :
    (["status", "service", "version", "environment"] ++
      ((Reply.manager live closing t).fields ++ r.fields).map Prod.fst).Nodup := by
  simp only [Reply.fields, SessionReport.fields, List.map_append, List.map_cons, List.map_nil]
  decide

/-- No figure takes the place of another one, and collecting them changes nothing. -/
theorem collectStats_eq (c : Controller) : collectStats.on c =
    ((c.site.closingCount (c.site.registry c.manager.registry).members).bind fun closing =>
      c.report.map fun r =>
        (Reply.manager c.live closing (c.site.tallies c.manager.counters)).fields ++ r.fields,
      c) := by
  have hasked : askManager.on c =
      ((c.site.closingCount (c.site.registry c.manager.registry).members).map fun closing =>
        .manager c.live closing (c.site.tallies c.manager.counters), c) := rfl
  rw [collectStats, Steps.on_bind, hasked]
  cases c.site.closingCount (c.site.registry c.manager.registry).members with
  | error f => rfl
  | ok closing =>
    simp only [Except.map, Except.bind, Steps.on_bind, on_collect]
    cases c.report with
    | error f => rfl
    | ok r =>
      have hnodup :=
        (nodup_figures c.live closing (c.site.tallies c.manager.counters) r).of_append_right
      have hfirst : ((Reply.manager c.live closing
          (c.site.tallies c.manager.counters)).fields.map Prod.fst).Nodup := by
        rw [List.map_append] at hnodup
        exact hnodup.of_append_left
      simp only [Steps.on_pure, Names.ofPairs_of_nodup hfirst, Names.enterAll_of_nodup hnodup]

theorem on_collectStats (c : Controller) : collectStats.on c = (c.statsFields, c) := by
  rw [statsFields, collectStats_eq]

/-- The figures are found when those of the manager and those of the sessions can be had. -/
theorem statsFields_eq_ok {c : Controller} {fields : Names Value}
    (h : c.statsFields = .ok fields) : ∃ closing r, c.report = .ok r ∧ fields =
      (Reply.manager c.live closing (c.site.tallies c.manager.counters)).fields ++ r.fields := by
  rw [statsFields, collectStats_eq] at h
  obtain ⟨closing, -, h⟩ := ok_of_bind h
  cases hr : c.report with
  | error f =>
    rw [hr] at h
    cases h
  | ok r =>
    rw [hr] at h
    exact ⟨closing, r, rfl, (Except.ok.inj h).symm⟩

end Controller
end Linkcut
