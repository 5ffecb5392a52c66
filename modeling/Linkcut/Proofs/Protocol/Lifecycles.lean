import Linkcut.Proofs.Protocol.Tracking
import Linkcut.Proofs.Site.Balance
import Mathlib.Algebra.BigOperators.Ring.Finset

/-!
Connections from their beginning to their end. A connection is made by one protocol, then perhaps by
others that take it over, and the last of them loses it. However such lives interleave, and wherever
the manager is drained, nothing is left of a connection that was lost; and one that no drain met
while it was taken over has been counted once when it came and once when it went.
-/

set_option autoImplicit false

namespace Linkcut.Protocols

/-- The calls of one connection so far. Each protocol that it is made by is new to it, and the last
of them loses it, if it is lost at all; `used` are those that made it before, the last one first. -/
def lives (t : Handle) : List String → List Command → Bool
  | _, [] => true
  | used, .made name h _ :: ks => decide (h = t) && !used.contains name && lives t (name :: used) ks
  | last :: _, [.lost name _ _] => decide (name = last)
  | _, _ => false

/-- Whether the command is a call to a protocol of the connection. -/
def Command.isOf (own : String → Handle) (t : Handle) : Command → Bool
  | made name .. | lost name .. => decide (own name = t)
  | drain => false

/-- Lives of connections, interleaved with each other and with drains; each protocol is used for
its own connection only. -/
def Interleaved (own : String → Handle) (ks : List Command) : Prop :=
  ∀ t, lives t [] (ks.filter (Command.isOf own t))

def Command.makes? : Command → Option Handle
  | made _ h _ => some h
  | _ => none

def Command.loses? (own : String → Handle) : Command → Option Handle
  | lost name .. => some (own name)
  | _ => none

def Made (t : Handle) (ks : List Command) : Prop := ∃ k ∈ ks, k.makes? = some t

def Lost (own : String → Handle) (t : Handle) (ks : List Command) : Prop :=
  ∃ k ∈ ks, k.loses? own = some t

instance (t : Handle) (ks : List Command) : Decidable (Made t ks) :=
  inferInstanceAs (Decidable (∃ k ∈ ks, k.makes? = some t))

instance (own : String → Handle) (t : Handle) (ks : List Command) : Decidable (Lost own t ks) :=
  inferInstanceAs (Decidable (∃ k ∈ ks, k.loses? own = some t))

/-- No drain comes between calls that make the connection. -/
def Unbroken (t : Handle) (ks : List Command) : Prop :=
  ∀ before after, ks = before ++ .drain :: after → Made t before → ¬ Made t after

/-- Up to its last call a life is one, and makes the connection only; and the last call is made to
those that made it by then. -/
theorem lives_concat {t : Handle} {used : List String} {ks : List Command} {k : Command}
    (h : lives t used (ks ++ [k])) :
    lives t used ks ∧ (∀ j ∈ ks, ∃ name f, j = .made name t f) ∧
    ∃ names, (∀ n ∈ names, n ∈ used ∨ ∃ f, .made n t f ∈ ks) ∧ lives t names [k] := by
  induction ks generalizing used with
  | nil => exact ⟨by simp [lives], by simp, used, fun _ hn => .inl hn, h⟩
  | cons j js ih =>
    cases j with
    | made name u f =>
      simp only [List.cons_append, lives, Bool.and_eq_true, decide_eq_true_eq] at h ⊢
      obtain ⟨⟨rfl, hnew⟩, hrest⟩ := h
      obtain ⟨hlives, hmade, names, hnames, hlast⟩ := ih hrest
      refine ⟨⟨⟨rfl, hnew⟩, hlives⟩, List.forall_mem_cons.2 ⟨⟨name, f, rfl⟩, hmade⟩, names,
        fun n hn => ?_, hlast⟩
      rcases hnames n hn with hused | ⟨g, hin⟩
      · rcases List.mem_cons.1 hused with rfl | hused
        · exact .inr ⟨f, by simp⟩
        · exact .inl hused
      · exact .inr ⟨g, List.mem_cons_of_mem _ hin⟩
    | lost name e f => cases used <;> simp [lives] at h
    | drain => cases used <;> simp [lives] at h

namespace Interleaved

variable {own : String → Handle} {ks : List Command} {k : Command} {name : String} {t : Handle}

theorem of_concat (h : Interleaved own (ks ++ [k])) : Interleaved own ks := by
  intro t
  have ht := h t
  rw [List.filter_append] at ht
  by_cases hk : k.isOf own t
  · exact (lives_concat (by simpa [hk] using ht)).1
  · simpa [hk] using ht

theorem life (h : Interleaved own (ks ++ [k])) (hk : k.isOf own t) :
    lives t [] (ks.filter (Command.isOf own t) ++ [k]) := by
  have ht := h t
  rwa [List.filter_append, List.filter_cons_of_pos hk, List.filter_nil] at ht

/-- A call that makes a connection makes that of its protocol, which was not lost before. -/
theorem made {f : Option Fault} (h : Interleaved own (ks ++ [.made name t f])) :
    own name = t ∧ ¬ Lost own t ks := by
  obtain ⟨_, hmade, names, _, hlast⟩ :=
    lives_concat (h.life (t := own name) (by simp [Command.isOf]))
  have ht : t = own name := by
    simp only [lives, Bool.and_eq_true, decide_eq_true_eq] at hlast
    exact hlast.1.1
  refine ⟨ht.symm, ?_⟩
  rintro ⟨k, hin, hk⟩
  cases k with
  | lost n e g =>
    have hof : Command.lost n e g ∈ ks.filter (Command.isOf own (own name)) := by
      simpa [Command.isOf, hin, ← ht, Command.loses?] using hk
    obtain ⟨_, _, heq⟩ := hmade _ hof
    cases heq
  | _ => cases hk

theorem lost {e f : Option Fault} (h : Interleaved own (ks ++ [.lost name e f])) :
    ∃ g, .made name (own name) g ∈ ks := by
  obtain ⟨_, _, names, hnames, hlast⟩ :=
    lives_concat (h.life (t := own name) (by simp [Command.isOf]))
  cases names with
  | nil => simp [lives] at hlast
  | cons last names =>
    simp only [lives, decide_eq_true_eq] at hlast
    rcases hnames last (by simp) with hnone | ⟨g, hin⟩
    · cases hnone
    · exact ⟨g, hlast ▸ (List.mem_filter.1 hin).1⟩

theorem own_of_made (h : Interleaved own ks) {f : Option Fault} (hin : .made name t f ∈ ks) :
    own name = t := by
  induction ks using List.reverseRecOn with
  | nil => cases hin
  | append_singleton ks k ih =>
    rcases List.mem_append.1 hin with hin | hk
    · exact ih h.of_concat hin
    · cases List.mem_singleton.1 hk
      exact h.made.1

theorem latest_eq (h : Interleaved own ks) (hmade : ∃ g, .made name (own name) g ∈ ks) :
    latest name ks = some (own name) := by
  obtain ⟨g, hin⟩ := hmade
  have hgiven : own name ∈ ks.filterMap (Command.given? name) :=
    List.mem_filterMap.2 ⟨_, hin, by simp [Command.given?]⟩
  have hall : ∀ u ∈ ks.filterMap (Command.given? name), u = own name := by
    intro u hu
    obtain ⟨k, hk, hgives⟩ := List.mem_filterMap.1 hu
    cases k with
    | made n v f =>
      by_cases hn : n = name
      · simp only [Command.given?, hn, if_true, Option.some.injEq] at hgives
        exact (h.own_of_made (hn ▸ hgives ▸ hk)).symm
      · simp [Command.given?, hn] at hgives
    | _ => simp [Command.given?] at hgives
  rw [latest]
  cases hlast : (ks.filterMap (Command.given? name)).getLast? with
  | none =>
    rw [List.getLast?_eq_none_iff.1 hlast] at hgiven
    cases hgiven
  | some u => rw [hall u (List.mem_of_getLast? hlast)]

end Interleaved

theorem made_concat {t : Handle} {ks : List Command} {k : Command} :
    Made t (ks ++ [k]) ↔ Made t ks ∨ k.makes? = some t := by
  simp [Made, or_and_right, exists_or]

theorem lost_concat {own : String → Handle} {t : Handle} {ks : List Command} {k : Command} :
    Lost own t (ks ++ [k]) ↔ Lost own t ks ∨ k.loses? own = some t := by
  simp [Lost, or_and_right, exists_or]

theorem Interleaved.made_of_lost {own : String → Handle} {ks : List Command} {t : Handle}
    (h : Interleaved own ks) (hlost : Lost own t ks) : Made t ks := by
  induction ks using List.reverseRecOn with
  | nil => simp [Lost] at hlost
  | append_singleton ks k ih =>
    refine made_concat.2 (.inl ?_)
    rcases lost_concat.1 hlost with hbefore | hk
    · exact ih h.of_concat hbefore
    · cases k with
      | lost name e f =>
        obtain ⟨g, hin⟩ := h.lost
        exact ⟨_, hin, by simpa [Command.makes?, Command.loses?] using hk⟩
      | _ => cases hk

theorem Unbroken.of_concat {t : Handle} {ks : List Command} {k : Command}
    (h : Unbroken t (ks ++ [k])) : Unbroken t ks := by
  intro before after hks hbefore hafter
  refine h before (after ++ [k]) (by simp [hks]) hbefore (made_concat.2 (.inl hafter))

/-- How often the connection was accepted. -/
def begun (ps : Protocols) (t : Handle) : Nat :=
  (ps.site.edges ps.manager.registry t).count .recorded

/-- How often the connection was closed or destroyed. -/
def ended (ps : Protocols) (t : Handle) : Nat :=
  (ps.site.edges ps.manager.registry t).count .forgotten +
    (ps.site.edges ps.manager.registry t).count .drained

def tally (ps : Protocols) (c : Counter) : Int := (ps.site.tallies ps.manager.counters).get c

section Step

variable {ps : Protocols} {k : Command} {t : Handle}

/-- A command that makes no connection has the manager record none. -/
theorem site_cases (hk : ps.knows k) :
    (∃ h, k.makes? = some h ∧
      (ps.step k).2.site = (ps.site.record (.manager ps.manager) h).2) ∨
    k.makes? = none ∧ ((ps.step k).2.site = ps.site ∨
      ∃ q, (∀ h, q ≠ .record h) ∧ (ps.step k).2.site = ps.ask q) := by
  have hsite := (effect hk).site
  cases k with
  | made name h f => exact .inl ⟨h, rfl, hsite⟩
  | lost name e f =>
    refine .inr ⟨rfl, ?_⟩
    cases hr : ps.remembers name with
    | none => exact .inl (by simpa [request?, hr] using hsite)
    | some h => exact .inr ⟨.forget h, by simp, by simpa [request?, hr] using hsite⟩
  | drain => exact .inr ⟨rfl, .inr ⟨.drain, by simp, hsite⟩⟩

theorem begun_step (hk : ps.knows k) (passive : ps.site.Passive t) :
    (ps.step k).2.begun t =
      ps.begun t + if k.makes? = some t ∧ t ∉ ps.tracked then 1 else 0 := by
  rw [begun, (effect hk).manager]
  rcases site_cases hk with ⟨h, hmakes, hsite⟩ | ⟨hnone, hsite | ⟨q, hq, hsite⟩⟩
  · rw [hsite, Site.edges_record, Site.record_fst]
    by_cases ht : h = t
    · by_cases hin : t ∈ ps.tracked <;>
        simp_all [begun, tracked, Target.registryIndex]
    · simp [begun, hmakes, ht]
  · simp [hsite, hnone, begun]
  · rw [hsite, ask, (Site.wanes_perform passive _ _ (hq t)).recorded]
    simp [hnone, begun]

theorem accepted_step (hk : ps.knows k) (passive : ∀ t, ps.site.Passive t) :
    (ps.step k).2.tally .accepted = ps.tally .accepted +
      (k.makes?.elim 0 fun h => if h ∈ ps.tracked then 0 else 1) := by
  rw [tally, (effect hk).manager]
  rcases site_cases hk with ⟨h, hmakes, hsite⟩ | ⟨hnone, hsite | ⟨q, hq, hsite⟩⟩
  · rw [hsite, hmakes]
    by_cases hin : h ∈ ps.site.registry ps.manager.registry <;> simp [tally, tracked, hin]
  · simp [hsite, hnone, tally]
  · rw [hsite, ask, Site.accepted_perform passive _ _ hq]
    simp [hnone, tally]

theorem accepted_step_sum (hk : ps.knows k) (passive : ∀ t, ps.site.Passive t) {T : Finset Handle}
    (hT : ∀ t, k.makes? = some t → t ∈ T) (h : ps.tally .accepted = ∑ t ∈ T, (ps.begun t : Int)) :
    (ps.step k).2.tally .accepted = ∑ t ∈ T, ((ps.step k).2.begun t : Int) := by
  have hbegun : ∀ t, ((ps.step k).2.begun t : Int) =
      ps.begun t + if k.makes? = some t ∧ t ∉ ps.tracked then 1 else 0 := by
    intro t
    rw [begun_step hk (passive t)]
    split <;> simp
  simp only [hbegun, Finset.sum_add_distrib, accepted_step hk passive, h]
  cases hm : k.makes? with
  | none => simp
  | some h =>
    have hin := hT h hm
    by_cases htracked : h ∈ ps.tracked <;> simp [ite_and, hin, htracked]

end Step

/-- The story of a connection so far. It is tracked once it is made, until it is lost or drained; and
it began once, unless it was drained and then made by another protocol. -/
structure Story (own : String → Handle) (t : Handle) (ks : List Command) (qs : Protocols) :
    Prop where
  unmade : ¬ Made t ks → qs.begun t = 0 ∧ t ∉ qs.tracked
  once : Made t ks → Unbroken t ks → qs.begun t = 1
  drained : Made t ks → ¬ Lost own t ks → t ∉ qs.tracked →
    ∃ before after, ks = before ++ .drain :: after ∧ Made t before
  lost : Lost own t ks → t ∉ qs.tracked

namespace Story

variable {own : String → Handle} {t : Handle} {ks : List Command} {k : Command} {qs us : Protocols}

/-- A command that makes, loses or drains nothing of the connection. -/
theorem aside (h : Story own t ks qs) (hmade : k.makes? ≠ some t) (hlost : k.loses? own ≠ some t)
    (hbegun : us.begun t = qs.begun t) (htracked : t ∈ us.tracked ↔ t ∈ qs.tracked) :
    Story own t (ks ++ [k]) us where
  unmade hm := by
    rw [hbegun, htracked]
    exact h.unmade fun hin => hm (made_concat.2 (.inl hin))
  once hm hu := by
    rw [hbegun]
    exact h.once ((made_concat.1 hm).resolve_right hmade) hu.of_concat
  drained hm hl hout := by
    obtain ⟨before, after, hks, hin⟩ := h.drained ((made_concat.1 hm).resolve_right hmade)
      (fun hl' => hl (lost_concat.2 (.inl hl'))) (mt htracked.2 hout)
    exact ⟨before, after ++ [k], by simp [hks], hin⟩
  lost hl := mt htracked.1 (h.lost ((lost_concat.1 hl).resolve_right hlost))

/-- The connection is made, not for the first time perhaps, but before it is lost. -/
theorem made (h : Story own t ks qs) (hmakes : k.makes? = some t) (hloses : k.loses? own = none)
    (hearly : ¬ Lost own t ks) (htracked : t ∈ us.tracked)
    (hbegun : us.begun t = qs.begun t + if t ∉ qs.tracked then 1 else 0) :
    Story own t (ks ++ [k]) us where
  unmade hm := absurd (made_concat.2 (.inr hmakes)) hm
  once _ hu := by
    by_cases hbefore : Made t ks
    · by_cases hin : t ∈ qs.tracked
      · rw [hbegun, h.once hbefore hu.of_concat]
        simp [hin]
      · -- a drain took it out after it was made, and now it is made again
        obtain ⟨before, after, hks, hmade⟩ := h.drained hbefore hearly hin
        exact absurd (made_concat.2 (.inr hmakes)) (hu before (after ++ [k]) (by simp [hks]) hmade)
    · rw [hbegun, (h.unmade hbefore).1]
      simp [(h.unmade hbefore).2]
  drained _ _ hout := absurd htracked hout
  lost hl := absurd ((lost_concat.1 hl).resolve_right (by simp [hloses])) hearly

theorem gone (h : Story own t ks qs) (hmakes : k.makes? = none)
    (hgone : k = .drain ∨ Lost own t (ks ++ [k])) (hbegun : us.begun t = qs.begun t)
    (hout : t ∉ us.tracked) : Story own t (ks ++ [k]) us where
  unmade hm := ⟨hbegun.trans (h.unmade fun hin => hm (made_concat.2 (.inl hin))).1, hout⟩
  once hm hu := hbegun.trans (h.once ((made_concat.1 hm).resolve_right (by simp [hmakes]))
    hu.of_concat)
  drained hm hl _ := by
    obtain rfl := hgone.resolve_right hl
    exact ⟨ks, [], rfl, (made_concat.1 hm).resolve_right (by simp [hmakes])⟩
  lost _ := hout

theorem step (h : Story own t ks qs) (hk : qs.knows k) (passive : qs.site.Passive t)
    (hremembers : ∀ name, qs.remembers name = latest name ks)
    (lives : Interleaved own (ks ++ [k])) : Story own t (ks ++ [k]) (qs.step k).2 := by
  have htracked := tracked_step hk passive hremembers
  have hbegun := begun_step hk passive
  cases k with
  | made name u f =>
    obtain ⟨_, hearly⟩ := lives.made
    by_cases ht : u = t
    · subst ht
      exact h.made rfl rfl hearly (by simp [htracked, Command.concerns?])
        (by simpa [Command.makes?] using hbegun)
    · exact h.aside (by simpa [Command.makes?] using ht) (by simp [Command.loses?])
        (by simpa [Command.makes?, ht] using hbegun) (by simp [htracked, Command.concerns?, ht])
  | lost name e f =>
    have hlatest := lives.of_concat.latest_eq lives.lost
    by_cases ht : own name = t
    · exact h.gone rfl (.inr (lost_concat.2 (.inr (by simp [Command.loses?, ht]))))
        (by simpa [Command.makes?] using hbegun)
        (by simp [htracked, Command.concerns?, hlatest, ht])
    · exact h.aside (by simp [Command.makes?]) (by simpa [Command.loses?] using ht)
        (by simpa [Command.makes?] using hbegun)
        (by simp [htracked, Command.concerns?, hlatest, ht])
  | drain =>
    exact h.gone rfl (.inl rfl) (by simpa [Command.makes?] using hbegun)
      (by simp [htracked, Command.concerns?])

end Story

/-- Protocols over a manager that has counted nothing yet. -/
structure IsBlank (ps : Protocols) : Prop extends ps.IsNew where
  journal : ps.site.journal = []
  tallies : ps.site.tallies ps.manager.counters = .zero

theorem IsBlank.begun {ps : Protocols} (h : ps.IsBlank) (t : Handle) : ps.begun t = 0 := by
  simp [Protocols.begun, Site.edges, Site.observed, Site.events, h.journal]

section Run

variable {ps : Protocols} {ks : List Command}

theorem story_run (hnew : ps.IsBlank) {own : String → Handle} {t : Handle}
    (passive : ps.site.Passive t) (hks : ∀ k ∈ ks, ps.knows k) (lives : Interleaved own ks) :
    Story own t ks (ps.run ks).2 := by
  refine run_invariant hks (fun past qs => Interleaved own past → Story own t past qs)
    (fun _ => ?_) ?_ lives
  · exact ⟨fun _ => ⟨hnew.begun t, by simp [hnew.tracked]⟩, by simp [Made], by simp [Made],
      by simp [Lost]⟩
  · intro past k qs hkept hk ih lives
    exact (ih lives.of_concat).step hk (passive.of_grows hkept.grows)
      (hkept.latest hnew.toIsNew) lives

theorem accepted_run (hnew : ps.IsBlank) (passive : ∀ t, ps.site.Passive t)
    (hks : ∀ k ∈ ks, ps.knows k) {T : Finset Handle} (hT : ∀ t, Made t ks → t ∈ T) :
    (ps.run ks).2.tally .accepted = ∑ t ∈ T, ((ps.run ks).2.begun t : Int) := by
  refine run_invariant hks (fun past qs => (∀ t, Made t past → t ∈ T) →
    qs.tally .accepted = ∑ t ∈ T, (qs.begun t : Int)) (fun _ => ?_) ?_ hT
  · simp [tally, hnew.tallies, hnew.begun]
  · intro past k qs hkept hk ih hT
    exact accepted_step_sum hk (fun t => (passive t).of_grows hkept.grows)
      (fun t ht => hT t (made_concat.2 (.inr ht)))
      (ih fun t ht => hT t (made_concat.2 (.inl ht)))

/-- At the site a run is a run of orders to the manager. -/
theorem orders_run (hks : ∀ k ∈ ks, ps.knows k) :
    ∃ os : List Order, (∀ o ∈ os, o.Within {ps.manager}) ∧
      (ps.run ks).2.site = ps.site.obeyAll os := by
  refine run_invariant hks (fun _ qs => ∃ os : List Order, (∀ o ∈ os, o.Within {ps.manager}) ∧
    qs.site = ps.site.obeyAll os) ⟨[], by simp, rfl⟩ ?_
  rintro past k qs hkept hk ⟨os, hos, hsite⟩
  have hstep := (effect hk).site
  cases hq : qs.request? k with
  | none => exact ⟨os, hos, by simp [hstep, hq, hsite]⟩
  | some q =>
    refine ⟨os ++ [⟨.manager ps.manager, ⟨.manager ps.manager, q⟩⟩], fun o ho => ?_, ?_⟩
    · rcases List.mem_append.1 ho with ho | ho
      · exact hos o ho
      · cases List.mem_singleton.1 ho
        exact ⟨rfl, rfl⟩
    · rw [hstep, hq, Site.obeyAll_concat, ← hsite]
      simp [ask, Site.obey, hkept.manager]

/-- Of the periods that began all have ended, but for one that is open. -/
theorem begun_eq (hnew : ps.IsBlank) (hks : ∀ k ∈ ks, ps.knows k) (t : Handle) :
    (ps.run ks).2.begun t =
      (ps.run ks).2.ended t + if t ∈ (ps.run ks).2.tracked then 1 else 0 := by
  obtain ⟨os, _, hsite⟩ := orders_run hks
  have hmoment : ps.site.Moment (fun _ => True) ⟨(ps.run ks).2.site, .running, []⟩ :=
    hsite ▸ .rest os fun _ _ => trivial
  have hperiods := Course.Periods.moment (h := t) hnew.tracked hnew.journal hmoment
  have hcount := Edge.count_of_alternate hperiods.alternate
  have htracked := hperiods.tracked
  dsimp only at hcount htracked
  simp only [begun, ended, tracked, (kept_run hks).manager]
  by_cases hin : t ∈ (ps.run ks).2.site.registry ps.manager.registry
  · have hopen := htracked.1 hin
    rw [if_pos hin]
    omega
  · have hclosed := mt htracked.2 hin
    rw [if_neg hin]
    omega

/-- What was accepted and is not tracked was closed or destroyed. -/
theorem balance_run (hnew : ps.IsBlank) (within : ps.site.Within {ps.manager})
    (hks : ∀ k ∈ ks, ps.knows k) (mild : (ps.run ks).2.site.Mild) :
    (ps.run ks).2.tally .closed + (ps.run ks).2.tally .destroyed =
      (ps.run ks).2.tally .accepted - (ps.run ks).2.live := by
  obtain ⟨os, hos, hsite⟩ := orders_run hks
  have hmoment : ps.site.Moment (Order.Within {ps.manager}) ⟨(ps.run ks).2.site, .running, []⟩ :=
    hsite ▸ .rest os hos
  have hbalanced := Course.Balanced.moment (G := {ps.manager}) (F := {ps.manager}) (by simp)
    ⟨by simp, by simp⟩ (by simpa using ⟨hnew.tracked, hnew.tallies⟩) within hmoment
  have hbalance := hbalanced.balance mild
  simp only [Site.credit, Site.held, Finset.image_singleton, Finset.sum_singleton, Frame.taken,
    Counters.open] at hbalance
  simp only [tally, live, (kept_run hks).manager]
  omega

theorem live_eq_sum {T : Finset Handle} (hT : ∀ t ∈ ps.tracked, t ∈ T) :
    (ps.live : Int) = ∑ t ∈ T, if t ∈ ps.tracked then 1 else 0 := by
  have hmembers : T.filter (· ∈ ps.tracked) = ps.tracked.members.toFinset := by
    ext t
    simp only [Finset.mem_filter, List.mem_toFinset, Registry.mem_def]
    exact ⟨And.right, fun h => ⟨hT t h, h⟩⟩
  rw [Finset.sum_boole, hmembers, List.toFinset_card_of_nodup ps.tracked.nodup]
  rfl

end Run

/-- Over protocols with a new manager whose abort calls record nothing and go to no other manager,
and for all lives of connections, interleaved with each other and with drains: a connection that was
lost is not tracked, so that none is live when all were lost. What the manager has accepted, and what
it has closed or destroyed, adds up over the connections that were made; and of each of them that was
lost, and that no drain met while it was being made, it is one and one. -/
theorem lost_connections_settled (ps : Protocols) (hnew : ps.IsBlank)
    (passive : ∀ t, ps.site.Passive t) (within : ps.site.Within {ps.manager}) (ks : List Command)
    (hks : ∀ k ∈ ks, ps.knows k) (own : String → Handle) (lives : Interleaved own ks) :
    (∀ t, Lost own t ks → t ∉ (ps.run ks).2.tracked) ∧
    ((∀ t, Made t ks → Lost own t ks) → (ps.run ks).2.live = 0) ∧
    (∀ T : Finset Handle, (∀ t, Made t ks → t ∈ T) →
      (ps.run ks).2.tally .accepted = ∑ t ∈ T, ((ps.run ks).2.begun t : Int) ∧
      ((ps.run ks).2.site.Mild →
        (ps.run ks).2.tally .closed + (ps.run ks).2.tally .destroyed =
          ∑ t ∈ T, ((ps.run ks).2.ended t : Int))) ∧
    (∀ t, Lost own t ks → Unbroken t ks →
      (ps.run ks).2.begun t = 1 ∧ (ps.run ks).2.ended t = 1) := by
  have hstory : ∀ t, Story own t ks (ps.run ks).2 := fun t => story_run hnew (passive t) hks lives
  have hmade : ∀ t ∈ (ps.run ks).2.tracked, Made t ks := by
    intro t hin
    by_contra hnot
    exact ((hstory t).unmade hnot).2 hin
  refine ⟨fun t => (hstory t).lost, fun hall => ?_, fun T hT => ⟨?_, fun mild => ?_⟩, ?_⟩
  · have hnone : ∀ t ∈ (ps.run ks).2.tracked.members, False :=
      fun t hin => (hstory t).lost (hall t (hmade t hin)) hin
    exact List.length_eq_zero_iff.2 (List.eq_nil_iff_forall_not_mem.2 hnone)
  · exact accepted_run hnew passive hks hT
  · have hterm : ∀ t, ((ps.run ks).2.begun t : Int) =
        (ps.run ks).2.ended t + if t ∈ (ps.run ks).2.tracked then 1 else 0 := by
      intro t
      rw [begun_eq hnew hks t]
      split <;> simp
    rw [balance_run hnew within hks mild, accepted_run hnew passive hks hT,
      live_eq_sum fun t hin => hT t (hmade t hin)]
    simp only [hterm, Finset.sum_add_distrib]
    omega
  · intro t hlost hunbroken
    have hbegun := (hstory t).once (lives.made_of_lost hlost) hunbroken
    have hended := begun_eq hnew hks t
    rw [if_neg ((hstory t).lost hlost), hbegun] at hended
    exact ⟨hbegun, hended.symm⟩

/-- Two protocols for one connection and one for another. The first connection forgets itself and
drains again when it is aborted, and fails. -/
def exchange : Protocols where
  site := ({} : Site).setTransport "a"
    { reaction := fun _ => { requests := [.forget "a", .drain], fault := some .tooDeep } }
  table := [("a1", {}), ("a2", {}), ("b1", {})]

def exchangeOwn (name : String) : Handle := if name = "b1" then "b" else "a"

/-- Both connections are made, the first is taken over, a drain aborts them, and both are lost. -/
def exchanged : List Command :=
  [.made "a1" "a" none, .made "b1" "b" (some .tooDeep), .made "a2" "a" none, .drain,
    .lost "a2" (some .noHome) none, .drain, .lost "b1" none (some .tooDeep)]

theorem lost_connections_settled_exchange :
    exchange.IsBlank ∧ (∀ t, exchange.site.Passive t) ∧
    exchange.site.Within {exchange.manager} ∧ (∀ k ∈ exchanged, exchange.knows k) ∧
    Interleaved exchangeOwn exchanged ∧ (exchange.run exchanged).2.site.Mild ∧
    "a" ∉ (exchange.run exchanged).2.tracked ∧ (exchange.run exchanged).2.live = 0 ∧
    (exchange.run exchanged).2.begun "a" = 1 ∧ (exchange.run exchanged).2.ended "a" = 1 ∧
    (exchange.run exchanged).2.tally .accepted = 2 ∧
    (exchange.run exchanged).2.tally .accepted =
      ∑ t ∈ ({"a", "b"} : Finset Handle), ((exchange.run exchanged).2.begun t : Int) ∧
    (exchange.run exchanged).2.tally .closed + (exchange.run exchanged).2.tally .destroyed =
      ∑ t ∈ ({"a", "b"} : Finset Handle), ((exchange.run exchanged).2.ended t : Int) := by
  have hblank : exchange.IsBlank := ⟨⟨rfl, by decide⟩, rfl, rfl⟩
  have passive : ∀ t, exchange.site.Passive t := by
    intro t k n hin
    by_cases hk : k = "a" <;> simp [exchange, hk] at hin
    simp [Site.transport, Table.get, Table.lookup] at hin
  have within : exchange.site.Within {exchange.manager} := by
    intro k n target hin
    by_cases hk : k = "a" <;> simp [exchange, hk] at hin
    simp [Site.transport, Table.get, Table.lookup] at hin
  have hknown : ∀ k ∈ exchanged, exchange.knows k := by decide
  have lives : Interleaved exchangeOwn exchanged := by
    intro t
    by_cases ha : t = "a"
    · subst ha
      decide
    · by_cases hb : t = "b"
      · subst hb
        decide
      · simp [exchanged, Command.isOf, exchangeOwn, Ne.symm ha, Ne.symm hb, Protocols.lives]
  have mild : (exchange.run exchanged).2.site.Mild := by decide
  have hmade : ∀ t, Made t exchanged →
      Lost exchangeOwn t exchanged ∧ t ∈ ({"a", "b"} : Finset Handle) := by
    intro t ht
    by_cases ha : t = "a"
    · subst ha
      decide
    · by_cases hb : t = "b"
      · subst hb
        decide
      · simp [Made, exchanged, Command.makes?, Ne.symm ha, Ne.symm hb] at ht
  have unbroken : Unbroken "a" exchanged := by
    have hafter : ∀ js ∈ exchanged.tails, js.head? = some .drain → ¬ Made "a" js.tail := by decide
    intro before after hks _
    exact hafter (.drain :: after) ((List.mem_tails _ _).2 ⟨before, hks.symm⟩) rfl
  have h := lost_connections_settled exchange hblank passive within exchanged hknown exchangeOwn
    lives
  have hsums := h.2.2.1 {"a", "b"} fun t ht => (hmade t ht).2
  have hone := h.2.2.2 "a" (by decide) unbroken
  exact ⟨hblank, passive, within, hknown, lives, mild, h.1 "a" (by decide),
    h.2.1 fun t ht => (hmade t ht).1, hone.1, hone.2, by decide, hsums.1, hsums.2 mild⟩

end Linkcut.Protocols
