import Linkcut.Proofs.Site.Modest
import Linkcut.Proofs.Site.Periods

/-!
Abort calls that do not record a handle, whatever else they do. Requests other than its record can
only end its tracking then, and a drain of its registry does so, however that drain comes out.
-/

set_option autoImplicit false

namespace Linkcut

namespace Site

/-- No abort call records the handle. -/
def Passive (s : Site) (h : Handle) : Prop :=
  ∀ k n, Request.record h ∉ ((s.transport k).reaction n).requests

theorem Passive.of_grows {s u : Site} {h : Handle} (hs : s.Passive h) (hg : s.Grows u) :
    u.Passive h := fun k n => hg.reaction k ▸ hs k n

/-- From `s` to `u` no period of the handle began. -/
structure Wanes (h : Handle) (s u : Site) : Prop where
  tracked : ∀ i, h ∈ u.registry i → h ∈ s.registry i
  recorded : ∀ i, (u.edges i h).count .recorded = (s.edges i h).count .recorded

namespace Wanes

variable {h : Handle} {s u v : Site}

theorem refl (h : Handle) (s : Site) : s.Wanes h s := ⟨fun _ hm => hm, fun _ => rfl⟩

theorem trans (hu : s.Wanes h u) (hv : u.Wanes h v) : s.Wanes h v :=
  ⟨fun i hm => hu.tracked i (hv.tracked i hm),
    fun i => (hv.recorded i).trans (hu.recorded i)⟩

theorem of_same (hr : ∀ i, u.registry i = s.registry i) (he : ∀ i, u.edges i h = s.edges i h) :
    s.Wanes h u := ⟨fun i hm => hr i ▸ hm, fun i => by rw [he i]⟩

end Wanes

theorem wanes_record (s : Site) (t : Target) {h k : Handle} (hk : k ≠ h) :
    s.Wanes h (s.record t k).2 where
  tracked i hm := by
    rw [registry_record] at hm
    split at hm
    · exact ((Registry.mem_insert _ _ _).1 hm).resolve_right hk.symm
    · exact hm
  recorded i := by rw [edges_record]; simp [hk]

theorem wanes_forget (s : Site) (t : Target) (h k : Handle) : s.Wanes h (s.forget t k).2 where
  tracked i hm := by
    rw [registry_forget] at hm
    split at hm
    · exact ((Registry.mem_erase _ _ _).1 hm).2
    · exact hm
  recorded i := by
    rw [edges_forget, List.count_append]
    split <;> simp

theorem wanes_take (s : Site) (h : Handle) (j : Nat) : s.Wanes h (s.take j).2 where
  tracked i hm := by
    rw [registry_take] at hm
    split at hm
    · exact absurd hm (Registry.not_mem_empty h)
    · exact hm
  recorded i := by
    rw [edges_take, List.count_append]
    split <;> simp

end Site

open Site

/-- Nothing that is asked, or is going to be asked, records the handle. -/
structure Course.Passive (h : Handle) (x : Course) : Prop where
  reactions : x.site.Passive h
  focus : ∀ e, x.focus = .asked e → e.request ≠ .record h
  frames : ∀ k es f, Frame.abort k es f ∈ x.frames → ∀ e ∈ es, e.request ≠ .record h

namespace Course

variable {h : Handle} {self : Target} {x y : Course}

theorem Passive.step (hs : Step self x y) (hx : x.Passive h) : y.Passive h := by
  have hreactions := hx.reactions.of_grows hs.grows
  cases hs with
  | enter s k fs room =>
    refine ⟨hreactions, by simp, fun l es f hin => ?_⟩
    rcases List.mem_cons.1 hin with heq | hin
    · cases heq
      intro e he hrec
      exact hx.reactions k _ (hrec ▸ Reaction.request_mem he)
    · exact hx.frames l es f hin
  | ask s k e es f fs =>
    have hall := hx.frames k (e :: es) f (by simp)
    refine ⟨hreactions, ?_, hx.frames⟩
    intro d hd
    cases hd
    exact hall e (by simp)
  | hear s k e es f fs r =>
    refine ⟨hreactions, by simp, fun l ds g hin => ?_⟩
    rcases List.mem_cons.1 hin with heq | hin
    · cases heq
      exact fun d hd => hx.frames k (e :: es) f (by simp) d (by simp [hd])
    · exact hx.frames l ds g (by simp [hin])
  | cutShort s k es f fs g =>
    refine ⟨hreactions, by simp, fun l ds g' hin => ?_⟩
    rcases List.mem_cons.1 hin with heq | hin
    · cases heq
      simp
    · exact hx.frames l ds g' (by simp [hin])
  | _ => exact ⟨hreactions, by simp, fun k es f hin => hx.frames k es f (by simp_all)⟩

theorem Step.wanes (hs : Step self x y) (hx : x.Passive h) : x.site.Wanes h y.site := by
  cases hs with
  | record s t k =>
    have hk : k ≠ h := fun e => hx.focus _ rfl (e ▸ rfl)
    exact wanes_record s t hk
  | forget s t k => exact wanes_forget s t h k
  | drain s t => exact wanes_take s h t.registryIndex
  | _ => exact .of_same (by simp) (by simp [edges, Event.edge?])

theorem Steps.wanes (hs : Steps self x y) (hx : x.Passive h) : x.site.Wanes h y.site := by
  have hrun : x.site.Wanes h y.site ∧ y.Passive h := by
    induction hs with
    | refl => exact ⟨.refl h x.site, hx⟩
    | tail _ hstep ih => exact ⟨ih.1.trans (hstep.wanes ih.2), ih.2.step hstep⟩
  exact hrun.1

end Course

namespace Site

variable {s : Site} {h : Handle}

theorem Passive.asked (hs : s.Passive h) (t : Target) {q : Request} (hq : q ≠ .record h) :
    Course.Passive h ⟨s, .asked ⟨t, q⟩, []⟩ :=
  ⟨hs, fun e he => by cases he; exact hq, by simp⟩

theorem wanes_perform (hs : s.Passive h) (self t : Target) {q : Request} (hq : q ≠ .record h) :
    s.Wanes h (s.perform self t q).2 :=
  Course.Steps.wanes (s.passes_perform ⟨self, ⟨t, q⟩⟩) (hs.asked t hq)

/-- A drain leaves the handle out of its registry, however the abort calls come out. -/
theorem not_mem_drain (hs : s.Passive h) (self t : Target) :
    h ∉ (s.perform self t .drain).2.registry t.registryIndex := by
  have hbegun : ∀ y, Course.Steps self ⟨s, .asked ⟨t, .drain⟩, []⟩ y →
      y.focus = .asked ⟨t, .drain⟩ ∨ h ∉ y.site.registry t.registryIndex := by
    intro y hy
    -- the first step takes the handles out, and the steps after it bring none back
    rcases hy.cases_head with rfl | ⟨z, hfirst, hrest⟩
    · exact .inl rfl
    · have hz := (hs.asked t (q := .drain) (by simp)).step hfirst
      right
      intro hm
      have htaken := (Course.Steps.wanes hrest hz).tracked t.registryIndex hm
      cases hfirst with
      | drain => simp at htaken
      | look _ _ _ look => cases look
  rcases hbegun _ (s.passes_perform ⟨self, ⟨t, .drain⟩⟩) with hfocus | hout
  · cases hfocus
  · exact hout

end Site

theorem Course.Step.accepted {self : Target} {x y : Course} (hs : Step self x y)
    (hx : ∀ h, x.Passive h) (k : Nat) :
    (y.site.tallies k).get .accepted = (x.site.tallies k).get .accepted := by
  cases hs with
  | record s t h => exact absurd rfl ((hx h).focus _ rfl)
  | forget s t h =>
    cases t with
    | registry i => simp
    | manager m => rw [tallies_forget_manager]; split <;> simp
  | settle s t n =>
    cases t with
    | registry i => rfl
    | manager m => by_cases hk : k = m.counters <;> simp [Site.settle, hk]
  | _ => rfl

theorem Site.accepted_perform {s : Site} (hs : ∀ h, s.Passive h) (self t : Target) {q : Request}
    (hq : ∀ h, q ≠ .record h) (k : Nat) :
    ((s.perform self t q).2.tallies k).get .accepted = (s.tallies k).get .accepted := by
  have hrun : ∀ y, Course.Steps self ⟨s, .asked ⟨t, q⟩, []⟩ y →
      (y.site.tallies k).get .accepted = (s.tallies k).get .accepted ∧ ∀ h, y.Passive h := by
    intro y hy
    induction hy with
    | refl => exact ⟨rfl, fun h => (hs h).asked t (hq h)⟩
    | tail _ hstep ih => exact ⟨(hstep.accepted ih.2 k).trans ih.1, fun h => (ih.2 h).step hstep⟩
  exact (hrun _ (s.passes_perform ⟨self, ⟨t, q⟩⟩)).1

end Linkcut
