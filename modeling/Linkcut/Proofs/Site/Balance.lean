import Linkcut.Proofs.Site.Grows
import Linkcut.Proofs.Site.Requests
import Mathlib.Algebra.BigOperators.Group.Finset.Piecewise

/-!
The balance of connections. Managers count what they accept, close and destroy; over a group of
managers that shares no store with others, what was accepted and neither closed nor destroyed is
what is tracked, and what drains have taken out and not yet counted.
-/

set_option autoImplicit false

namespace Linkcut

def Target.Within (F : Set Manager) : Target → Prop
  | .registry _ => False
  | .manager m => m ∈ F

/-- Abort calls make their requests to managers of the family, or to no place of their own. -/
def Site.Within (F : Set Manager) (s : Site) : Prop :=
  ∀ h n, ∀ t ∈ ((s.transport h).reaction n).targets, t.Within F

def Order.Within (F : Set Manager) (o : Order) : Prop :=
  o.self.Within F ∧ o.errand.target.Within F

theorem Reaction.mem_errands {r : Reaction} {self : Target} {e : Errand}
    (he : e ∈ r.errands self) : e.target = self ∨ e.target ∈ r.targets := by
  have hgen : ∀ ts qs, e ∈ address self ts qs → e.target = self ∨ e.target ∈ ts := by
    intro ts qs
    induction qs generalizing ts with
    | nil => cases ts <;> simp [address]
    | cons q qs ih =>
      cases ts with
      | nil =>
        intro h
        rcases List.mem_cons.1 h with rfl | h
        · exact .inl rfl
        · simpa using ih [] h
      | cons t ts =>
        intro h
        rcases List.mem_cons.1 h with rfl | h
        · exact .inr (by simp)
        · exact (ih ts h).imp_right (List.mem_cons_of_mem t)
  exact hgen _ _ he

/-- A group of managers that shares no store with other managers of the family. -/
structure Manager.Apart (G : Finset Manager) (F : Set Manager) : Prop where
  registry : ∀ m ∈ G, ∀ n ∈ F, n ∉ G → m.registry ≠ n.registry
  counters : ∀ m ∈ G, ∀ n ∈ F, n ∉ G → m.counters ≠ n.counters

namespace Manager.Apart

variable {G : Finset Manager} {F : Set Manager} {m : Manager}

theorem registry_mem (ha : Apart G F) (hm : m ∈ F) :
    m.registry ∈ G.image Manager.registry ↔ m ∈ G := by
  refine ⟨fun h => ?_, Finset.mem_image_of_mem _⟩
  obtain ⟨n, hn, he⟩ := Finset.mem_image.1 h
  by_contra hout
  exact ha.registry n hn m hm hout he

theorem counters_mem (ha : Apart G F) (hm : m ∈ F) :
    m.counters ∈ G.image Manager.counters ↔ m ∈ G := by
  refine ⟨fun h => ?_, Finset.mem_image_of_mem _⟩
  obtain ⟨n, hn, he⟩ := Finset.mem_image.1 h
  by_contra hout
  exact ha.counters n hn m hm hout he

end Manager.Apart

def Counter.sign : Counter → Int
  | .accepted => 1
  | .closed | .destroyed => -1
  | _ => 0

/-- Connections that were accepted and neither closed nor destroyed. -/
def Counters.open (t : Counters Int) : Int := t.get .accepted - t.get .closed - t.get .destroyed

theorem Counters.open_add (t : Counters Int) (c : Counter) (n : Int) :
    (t.add c n).open = t.open + c.sign * n := by
  cases c <;> simp [Counters.open, Counter.sign] <;> omega

/-- What drains of the group took out and have not counted yet. -/
def Frame.taken (G : Finset Manager) : List Frame → Nat
  | [] => 0
  | .drain (.manager m) n _ :: fs => (if m ∈ G then n else 0) + taken G fs
  | _ :: fs => taken G fs

namespace Site

variable (s : Site) (G : Finset Manager) (i : Nat)

def credit : Int := ∑ k ∈ G.image Manager.counters, (s.tallies k).open

def held : Int := ∑ i ∈ G.image Manager.registry, ((s.registry i).size : Int)

theorem credit_congr {s u : Site} (h : ∀ k, u.tallies k = s.tallies k) :
    u.credit G = s.credit G := by simp [credit, h]

theorem held_congr {s u : Site} (h : ∀ j, u.registry j = s.registry j) :
    u.held G = s.held G := by simp [held, h]

theorem credit_of_add {s u : Site} (c : Counter) (n : Int)
    (h : ∀ k, u.tallies k = if k = i then (s.tallies k).add c n else s.tallies k) :
    u.credit G = s.credit G + if i ∈ G.image Manager.counters then c.sign * n else 0 := by
  have hterm : ∀ k, (u.tallies k).open = (s.tallies k).open + if k = i then c.sign * n else 0 := by
    intro k
    rw [h k]
    split
    · exact Counters.open_add _ c n
    · simp
  simp only [credit, hterm, Finset.sum_add_distrib, Finset.sum_ite_eq']

theorem held_of_set {s u : Site} (r : Registry)
    (h : ∀ j, u.registry j = if j = i then r else s.registry j) :
    u.held G = s.held G +
      if i ∈ G.image Manager.registry then (r.size : Int) - (s.registry i).size else 0 := by
  have hterm : ∀ j, ((u.registry j).size : Int) =
      (s.registry j).size + if j = i then (r.size : Int) - (s.registry i).size else 0 := by
    intro j
    rw [h j]
    split
    · rename_i hj
      subst hj
      omega
    · simp
  simp only [held, hterm, Finset.sum_add_distrib, Finset.sum_ite_eq']

end Site

namespace Site

section Requests

variable {G : Finset Manager} {F : Set Manager} {m : Manager} (s : Site) (h : Handle) (n : Nat)

/-- A record by a manager moves both sides of the balance alike. -/
theorem balance_record (ha : Manager.Apart G F) (hm : m ∈ F) :
    (s.record (.manager m) h).2.credit G - (s.record (.manager m) h).2.held G =
      s.credit G - s.held G := by
  by_cases hin : h ∈ s.registry m.registry
  · rw [credit_congr G (s := s) (by simp [hin]), held_congr G (s := s) (by
      intro j; by_cases hj : j = m.registry <;> simp [Target.registryIndex, hj, hin])]
  · have hc := credit_of_add G m.counters (s := s) (u := (s.record (.manager m) h).2) .accepted 1
      (by simp [hin])
    have hh := held_of_set G m.registry (s := s) (u := (s.record (.manager m) h).2)
      ((s.registry m.registry).insert h)
      (by intro j; by_cases hj : j = m.registry <;> simp [Target.registryIndex, hj])
    rw [hc, hh, Registry.size_insert _ _ hin]
    by_cases hg : m ∈ G
    · simp only [ha.counters_mem hm, ha.registry_mem hm, hg, if_true, Counter.sign]
      omega
    · simp only [ha.counters_mem hm, ha.registry_mem hm, hg, if_false]
      omega

theorem balance_forget (ha : Manager.Apart G F) (hm : m ∈ F) :
    (s.forget (.manager m) h).2.credit G - (s.forget (.manager m) h).2.held G =
      s.credit G - s.held G := by
  by_cases hin : h ∈ s.registry m.registry
  · have hc := credit_of_add G m.counters (s := s) (u := (s.forget (.manager m) h).2) .closed 1
      (by simp [hin])
    have hh := held_of_set G m.registry (s := s) (u := (s.forget (.manager m) h).2)
      ((s.registry m.registry).erase h)
      (by intro j; by_cases hj : j = m.registry <;> simp [Target.registryIndex, hj])
    have hsize := Registry.size_erase _ _ hin
    rw [hc, hh]
    by_cases hg : m ∈ G
    · simp only [ha.counters_mem hm, ha.registry_mem hm, hg, if_true, Counter.sign]
      omega
    · simp only [ha.counters_mem hm, ha.registry_mem hm, hg, if_false]
      omega
  · rw [credit_congr G (s := s) (by simp [hin]), held_congr G (s := s) (by
      intro j; by_cases hj : j = m.registry <;> simp [Target.registryIndex, hj, hin])]

/-- A drain of the group opens a gap as wide as what it takes out. -/
theorem balance_take (ha : Manager.Apart G F) (hm : m ∈ F) :
    (s.take m.registry).2.credit G - (s.take m.registry).2.held G =
      s.credit G - s.held G + if m ∈ G then ((s.take m.registry).1.length : Int) else 0 := by
  have hh := held_of_set G m.registry (s := s) (u := (s.take m.registry).2) .empty (by simp)
  rw [credit_congr G (s := s) (by simp), hh, take_fst]
  have hempty : (Registry.empty.size : Int) = 0 := rfl
  have hsize : (s.registry m.registry).size = (s.registry m.registry).members.length := rfl
  by_cases hg : m ∈ G
  · simp only [ha.registry_mem hm, hg, if_true, hempty, hsize]
    omega
  · simp only [ha.registry_mem hm, hg, if_false]
    omega

theorem balance_settle (ha : Manager.Apart G F) (hm : m ∈ F) :
    (s.settle (.manager m) n).credit G - (s.settle (.manager m) n).held G =
      s.credit G - s.held G - if m ∈ G then (n : Int) else 0 := by
  have hc := credit_of_add G m.counters (s := s) (u := s.settle (.manager m) n) .destroyed n
    (by intro k; by_cases hk : k = m.counters <;> simp [settle, hk])
  rw [hc, held_congr G (s := s) (by simp)]
  by_cases hg : m ∈ G
  · simp only [ha.counters_mem hm, hg, if_true, Counter.sign]
    omega
  · simp only [ha.counters_mem hm, hg, if_false]
    omega

end Requests

end Site

def Frame.Within (F : Set Manager) : Frame → Prop
  | .drain t _ _ => t.Within F
  | .abort _ es _ => ∀ e ∈ es, e.target.Within F

/-- All requests go to the family, and the gap between what is open by the counters and what is
tracked is what drains have still to count. -/
structure Course.Balanced (F : Set Manager) (G : Finset Manager) (x : Course) : Prop where
  reactions : x.site.Within F
  focus : ∀ e, x.focus = .asked e → e.target.Within F
  frames : ∀ f ∈ x.frames, f.Within F
  balance : x.site.Mild → x.site.credit G - x.site.held G = Frame.taken G x.frames

namespace Course.Balanced

open Site

variable {F : Set Manager} {G : Finset Manager} {self : Target} {x y : Course}

theorem reactions_grow (hx : x.Balanced F G) (hg : x.site.Grows y.site) : y.site.Within F :=
  fun h n t ht => hx.reactions h n t (hg.reaction h ▸ ht)

/-- A step whose request changes no store of managers. -/
theorem of_same (hx : x.Balanced F G) (hg : x.site.Grows y.site)
    (focus : ∀ e, y.focus = .asked e → e.target.Within F)
    (frames : ∀ f ∈ y.frames, f.Within F)
    (hb : y.site.credit G - y.site.held G - Frame.taken G y.frames =
      x.site.credit G - x.site.held G - Frame.taken G x.frames) : y.Balanced F G where
  reactions := hx.reactions_grow hg
  focus := focus
  frames := frames
  balance hm := by
    have := hx.balance (hm.of_grows hg)
    omega

theorem step (ha : Manager.Apart G F) (hself : self.Within F) (hs : Step self x y)
    (hx : x.Balanced F G) : y.Balanced F G := by
  have hg := hs.grows
  cases hs with
  | record s t h fs =>
    have ht : t.Within F := hx.focus _ rfl
    cases t with
    | registry i => exact ht.elim
    | manager m =>
      refine hx.of_same hg (by simp) hx.frames ?_
      rw [balance_record s h ha ht]
  | forget s t h fs =>
    have ht : t.Within F := hx.focus _ rfl
    cases t with
    | registry i => exact ht.elim
    | manager m =>
      refine hx.of_same hg (by simp) hx.frames ?_
      rw [balance_forget s h ha ht]
  | drain s t fs =>
    have ht : t.Within F := hx.focus _ rfl
    cases t with
    | registry i => exact ht.elim
    | manager m =>
      refine hx.of_same hg (by simp) (by simpa [Frame.Within] using ⟨ht, hx.frames⟩) ?_
      have hb := balance_take s ha ht
      simp only [Target.registryIndex, Frame.taken] at hb ⊢
      rw [hb]
      split
      · omega
      · simp
  | settle s t n fs =>
    have ht : t.Within F := hx.frames (.drain t n []) (by simp)
    cases t with
    | registry i => exact ht.elim
    | manager m =>
      refine hx.of_same hg (by simp) (fun f hf => hx.frames f (by simp [hf])) ?_
      rw [balance_settle s n ha ht]
      simp only [Frame.taken]
      split
      · simp; omega
      · simp
  | giveUp s t n h hs fs f fatal =>
    -- what the drain took out is never counted: from here on nothing is said of the balance
    have hbad : ¬ (s.note (.failed h f)).Mild := fun hm => fatal (hm.ordinary (h := h) (by simp))
    exact ⟨hx.reactions_grow hg, by simp, fun f hf => hx.frames f (by simp [hf]),
      fun hm => absurd hm hbad⟩
  | enter s h fs room =>
    refine hx.of_same hg (by simp) ?_ ?_
    · have hes : ∀ e ∈ (s.reaction h).errands self, e.target.Within F := by
        intro e he
        rcases Reaction.mem_errands he with heq | hin
        · exact heq ▸ hself
        · exact hx.reactions h _ _ hin
      simpa [Frame.Within] using ⟨hes, hx.frames⟩
    · rw [credit_congr G (s := s) (by simp), held_congr G (s := s) (by simp)]
      rfl
  | ask s h e es f fs =>
    have hes : ∀ d ∈ e :: es, d.target.Within F := hx.frames (.abort h (e :: es) f) (by simp)
    refine hx.of_same hg (by simpa using hes e (by simp)) hx.frames rfl
  | hear s h e es f fs r =>
    have hes : ∀ d ∈ e :: es, d.target.Within F := hx.frames (.abort h (e :: es) f) (by simp)
    refine hx.of_same hg (by simp) ?_ rfl
    intro f hf
    rcases List.mem_cons.1 hf with rfl | hf
    · exact fun d hd => hes d (by simp [hd])
    · exact hx.frames f (by simp [hf])
  | cutShort s h es f fs g =>
    refine hx.of_same hg (by simp) ?_ rfl
    intro f hf
    rcases List.mem_cons.1 hf with rfl | hf
    · simp [Frame.Within]
    · exact hx.frames f (by simp [hf])
  | leave s h f fs =>
    exact hx.of_same hg (by simp) (fun f hf => hx.frames f (by simp [hf])) rfl
  | pick s t n h hs fs =>
    have ht : t.Within F := hx.frames (.drain t n (h :: hs)) (by simp)
    refine hx.of_same hg (by simp) ?_ ?_
    · intro f hf
      rcases List.mem_cons.1 hf with rfl | hf
      · exact ht
      · exact hx.frames f (by simp [hf])
    · cases t <;> rfl
  | _ => exact hx.of_same hg (by simp) hx.frames rfl

theorem moment {s : Site} (hG : ∀ m ∈ G, m ∈ F) (ha : Manager.Apart G F)
    (new : ∀ m ∈ F, s.registry m.registry = .empty ∧ s.tallies m.counters = .zero)
    (within : s.Within F) (hx : s.Moment (Order.Within F) x) : x.Balanced F G := by
  refine hx.invariant (Balanced F G) ?_ ?_ ?_ ?_
  · have hcredit : s.credit G = 0 := by
      refine Finset.sum_eq_zero fun k hk => ?_
      obtain ⟨m, hm, rfl⟩ := Finset.mem_image.1 hk
      simp [(new m (hG m hm)).2, Counters.open]
    have hheld : s.held G = 0 := by
      refine Finset.sum_eq_zero fun i hi => ?_
      obtain ⟨m, hm, rfl⟩ := Finset.mem_image.1 hi
      simp [(new m (hG m hm)).1, Registry.size, Registry.empty]
    exact ⟨within, by simp, by simp, by simp [hcredit, hheld, Frame.taken]⟩
  · intro s o ho hs
    exact ⟨hs.reactions, by simpa using ho.2, hs.frames, hs.balance⟩
  · exact fun s a hs => ⟨hs.reactions, by simp, hs.frames, hs.balance⟩
  · exact fun o x y ho hs hx => hx.step ha ho.1 hs

end Course.Balanced

theorem Frame.taken_eq_zero {fs : List Frame} (hn : ∀ t n hs, Frame.drain t n hs ∉ fs)
    (G : Finset Manager) : taken G fs = 0 := by
  induction fs with
  | nil => rfl
  | cons f fs ih =>
    have htail := ih fun t n hs hm => hn t n hs (List.mem_cons_of_mem _ hm)
    cases f with
    | drain t n hs => exact absurd (by simp) (hn t n hs)
    | abort => exact htail

namespace Site

/-- At every moment of every run of a new family whose abort calls end in ordinary faults at most,
for a group of managers apart from the others: connections accepted less those closed and destroyed
are those tracked and those that unfinished drains took out. When no drain is under way, accepted
ones are live, closed or destroyed. -/
theorem connections_balance (F : Set Manager) (G : Finset Manager) (hG : ∀ m ∈ G, m ∈ F)
    (apart : Manager.Apart G F) (s : Site)
    (new : ∀ m ∈ F, s.registry m.registry = .empty ∧ s.tallies m.counters = .zero)
    (within : s.Within F) (x : Course) (hx : s.Moment (Order.Within F) x) (mild : x.site.Mild) :
    ∑ k ∈ G.image Manager.counters, ((x.site.tallies k).get .accepted -
        (x.site.tallies k).get .closed - (x.site.tallies k).get .destroyed) =
      ∑ i ∈ G.image Manager.registry, ((x.site.registry i).size : Int) +
        Frame.taken G x.frames ∧
    ((∀ t n hs, Frame.drain t n hs ∉ x.frames) →
      ∑ k ∈ G.image Manager.counters, (x.site.tallies k).get .accepted =
        ∑ i ∈ G.image Manager.registry, ((x.site.registry i).size : Int) +
          ∑ k ∈ G.image Manager.counters, (x.site.tallies k).get .closed +
          ∑ k ∈ G.image Manager.counters, (x.site.tallies k).get .destroyed) := by
  have hb := (Course.Balanced.moment hG apart new within hx).balance mild
  have hopen : ∑ k ∈ G.image Manager.counters, ((x.site.tallies k).get .accepted -
      (x.site.tallies k).get .closed - (x.site.tallies k).get .destroyed) =
      ∑ i ∈ G.image Manager.registry, ((x.site.registry i).size : Int) +
        Frame.taken G x.frames := by
    change x.site.credit G = x.site.held G + Frame.taken G x.frames
    omega
  refine ⟨hopen, fun hn => ?_⟩
  rw [Frame.taken_eq_zero hn G, Finset.sum_sub_distrib, Finset.sum_sub_distrib] at hopen
  omega

/-- Two managers over one registry, and one that shares the counters of the second; aborted, a
connection is accepted anew by the third, which then drains. -/
def ring : Site :=
  ({} : Site).setTransport "a"
    { reaction := fun n =>
        { requests := if n = 0 then [.record "a", .record "b", .drain] else [.forget "c"]
          targets := [.manager ⟨1, 1⟩, .manager ⟨0, 0⟩, .manager ⟨1, 1⟩]
          fault := some .tooDeep } }

def ringOrders : List Order :=
  [(⟨0, 0⟩, .record "a"), (⟨0, 1⟩, .record "c"), (⟨2, 2⟩, .record "d"), (⟨0, 1⟩, .drain)].map
    fun (p : Manager × Request) => ⟨.manager p.1, ⟨.manager p.1, p.2⟩⟩

def ringGroup : Finset Manager := {⟨0, 0⟩, ⟨0, 1⟩, ⟨1, 1⟩}

def ringFamily : Finset Manager := {⟨0, 0⟩, ⟨0, 1⟩, ⟨1, 1⟩, ⟨2, 2⟩}

theorem connections_balance_ring :
    (∀ m ∈ ringGroup, m ∈ (ringFamily : Set Manager)) ∧
    Manager.Apart ringGroup ringFamily ∧
    (∀ m ∈ (ringFamily : Set Manager),
      ring.registry m.registry = .empty ∧ ring.tallies m.counters = .zero) ∧
    ring.Within ringFamily ∧ (∀ o ∈ ringOrders, o.Within ringFamily) ∧
    (ring.obeyAll ringOrders).Mild ∧
    ∑ k ∈ ringGroup.image Manager.counters, ((ring.obeyAll ringOrders).tallies k).get .accepted =
      ∑ i ∈ ringGroup.image Manager.registry, (((ring.obeyAll ringOrders).registry i).size : Int) +
        ∑ k ∈ ringGroup.image Manager.counters,
          ((ring.obeyAll ringOrders).tallies k).get .closed +
        ∑ k ∈ ringGroup.image Manager.counters,
          ((ring.obeyAll ringOrders).tallies k).get .destroyed := by
  have hG : ∀ m ∈ ringGroup, m ∈ (ringFamily : Set Manager) := by
    simp [ringFamily, ringGroup]
  have apart : Manager.Apart ringGroup ringFamily := ⟨by decide, by decide⟩
  have new : ∀ m ∈ (ringFamily : Set Manager),
      ring.registry m.registry = .empty ∧ ring.tallies m.counters = .zero :=
    fun _ _ => ⟨rfl, rfl⟩
  have within : ring.Within ringFamily := by
    intro h n t ht
    by_cases ha : h = "a" <;> simp [ring, ha] at ht
    · rcases ht with rfl | rfl | rfl <;> simp [Target.Within, ringFamily]
    · simp [transport, Table.get, Table.lookup] at ht
  have orders : ∀ o ∈ ringOrders, o.Within ringFamily := by
    simp [ringOrders, Order.Within, Target.Within, ringFamily]
  have mild : (ring.obeyAll ringOrders).Mild := by decide
  exact ⟨hG, apart, new, within, orders, mild,
    (connections_balance ringFamily ringGroup hG apart ring new within _
      (.rest ringOrders orders) mild).2 (by simp)⟩

end Site
end Linkcut
