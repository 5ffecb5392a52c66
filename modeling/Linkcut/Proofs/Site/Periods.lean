import Linkcut.Proofs.Site.Grows
import Linkcut.Proofs.Site.Requests

/-!
Periods of tracking. A handle is tracked from a record on until it is forgotten or taken out by a
drain, and a period that ends in a drain ends in one abort call. While drains are under way some of
these calls are still to be made: they are those on the handles that the frames hold.
-/

set_option autoImplicit false

namespace Linkcut

/-- How a period of tracking begins or ends. -/
inductive Edge where
  | recorded
  | forgotten
  | drained
  deriving DecidableEq, Repr

namespace Edge

/-- Beginnings and ends in turn, a beginning first. -/
def Alternate (es : List Edge) : Prop :=
  ∀ (n : Nat) (e : Edge), es[n]? = some e → (e = .recorded ↔ n % 2 = 0)

theorem alternate_nil : Alternate [] := by simp [Alternate]

theorem alternate_concat {es : List Edge} {e : Edge} (h : Alternate es)
    (he : e = .recorded ↔ es.length % 2 = 0) : Alternate (es ++ [e]) := by
  intro n d hd
  by_cases hn : n < es.length
  · rw [List.getElem?_append_left hn] at hd
    exact h n d hd
  · have hlen := (List.getElem?_eq_some_iff.1 hd).1
    have hn' : n = es.length := by
      simp only [List.length_append, List.length_singleton] at hlen
      omega
    subst hn'
    simp only [List.getElem?_concat_length, Option.some.injEq] at hd
    exact hd ▸ he

/-- The last edge tells whether a period is open. -/
theorem alternate_last {es : List Edge} (h : Alternate es) :
    es.getLast? = some .recorded ↔ es.length % 2 = 1 := by
  rw [List.getLast?_eq_getElem?]
  cases hd : es[es.length - 1]? with
  | none =>
    have hlen := List.getElem?_eq_none_iff.1 hd
    have hz : es.length = 0 := by omega
    simp [hz]
  | some d =>
    have hd' := h _ d hd
    have hlen := (List.getElem?_eq_some_iff.1 hd).1
    simp only [Option.some.injEq, hd']
    omega

theorem alternate_of_concat {es : List Edge} {e : Edge} (h : Alternate (es ++ [e])) :
    Alternate es ∧ (e = .recorded ↔ es.length % 2 = 0) :=
  ⟨fun n d hd => h n d (by
      rw [List.getElem?_append_left (List.getElem?_eq_some_iff.1 hd).1]
      exact hd),
    h es.length e List.getElem?_concat_length⟩

/-- Every period that began has ended, but for one that is open. -/
theorem count_of_alternate {es : List Edge} (h : Alternate es) :
    es.count .recorded = es.count .forgotten + es.count .drained + es.length % 2 := by
  induction es using List.reverseRecOn with
  | nil => rfl
  | append_singleton es e ih =>
    obtain ⟨hes, he⟩ := alternate_of_concat h
    have hcount := ih hes
    cases e <;> simp at he ⊢ <;> omega

end Edge

namespace Event

def edge? (i : Nat) (h : Handle) : Event → Option Edge
  | .recorded j k => if j = i ∧ k = h then some .recorded else none
  | .forgotten j k => if j = i ∧ k = h then some .forgotten else none
  | .drained j ks => if j = i ∧ h ∈ ks then some .drained else none
  | _ => none

def abortedBy? (i : Nat) : Event → Option Handle
  | .aborted (some j) h => if j = i then some h else none
  | _ => none

end Event

namespace Site

/-- Beginnings and ends of the periods in which the registry tracked the handle. -/
def edges (s : Site) (i : Nat) (h : Handle) : List Edge := s.observed (Event.edge? i h)

/-- The transports that drains of the registry aborted. -/
def abortedBy (s : Site) (i : Nat) : List Handle := s.observed (Event.abortedBy? i)

section

variable (s : Site) (t : Target) (h : Handle) (i j : Nat)

/-- A period begins when a record returns true. -/
theorem edges_record (k : Handle) :
    (s.record t k).2.edges i h = s.edges i h ++
      if (s.record t k).1 ∧ t.registryIndex = i ∧ k = h then [.recorded] else [] := by
  rw [edges, observed_record s _ k (fun _ => rfl) t, record_fst]
  by_cases hm : k ∈ s.registry t.registryIndex <;>
    by_cases hk : t.registryIndex = i ∧ k = h <;> simp [edges, Event.edge?, hm, hk]

/-- A period ends when a forget returns true. -/
theorem edges_forget (k : Handle) :
    (s.forget t k).2.edges i h = s.edges i h ++
      if (s.forget t k).1 ∧ t.registryIndex = i ∧ k = h then [.forgotten] else [] := by
  rw [edges, observed_forget s _ k (fun _ => rfl) t, forget_fst]
  by_cases hm : k ∈ s.registry t.registryIndex <;>
    by_cases hk : t.registryIndex = i ∧ k = h <;> simp [edges, Event.edge?, hm, hk]

/-- A period ends when a drain takes the handle out. -/
theorem edges_take :
    (s.take j).2.edges i h = s.edges i h ++
      if j = i ∧ h ∈ (s.take j).1 then [.drained] else [] := by
  rw [edges, observed_take, take_fst]
  by_cases hk : j = i ∧ h ∈ (s.registry j).members
  · simp only [edges, Event.edge?, if_pos hk, Option.toList_some]
  · simp only [edges, Event.edge?, if_neg hk, Option.toList_none]

@[simp] theorem abortedBy_record : (s.record t h).2.abortedBy i = s.abortedBy i := by
  rw [abortedBy, observed_record s _ h (fun _ => rfl) t]
  simp [abortedBy, Event.abortedBy?]

@[simp] theorem abortedBy_forget : (s.forget t h).2.abortedBy i = s.abortedBy i := by
  rw [abortedBy, observed_forget s _ h (fun _ => rfl) t]
  simp [abortedBy, Event.abortedBy?]

@[simp] theorem abortedBy_take : (s.take j).2.abortedBy i = s.abortedBy i := by
  simp [abortedBy, Event.abortedBy?]

end


end Site

/-- How often drains of the registry have still to abort the handle. -/
def Frame.owed (i : Nat) (h : Handle) : List Frame → Nat
  | [] => 0
  | .drain t _ hs :: fs => (if t.registryIndex = i then hs.count h else 0) + owed i h fs
  | .abort .. :: fs => owed i h fs

def Frame.NoDrain (i : Nat) (fs : List Frame) : Prop :=
  ∀ t n hs, Frame.drain t n hs ∈ fs → t.registryIndex ≠ i

theorem Frame.owed_eq_zero {i : Nat} {fs : List Frame} (hn : NoDrain i fs) (h : Handle) :
    owed i h fs = 0 := by
  induction fs with
  | nil => rfl
  | cons f fs ih =>
    have htail := ih fun t n hs hm => hn t n hs (List.mem_cons_of_mem _ hm)
    cases f with
    | drain t n hs => simp [owed, htail, hn t n hs (by simp)]
    | abort => simp [owed, htail]

/-- The edges of the handle alternate and tell whether it is tracked; of its periods that ended in a
drain, each has had its abort call or is owed it. -/
structure Course.Periods (i : Nat) (h : Handle) (x : Course) : Prop where
  alternate : Edge.Alternate (x.site.edges i h)
  tracked : h ∈ x.site.registry i ↔ (x.site.edges i h).length % 2 = 1
  aborted : x.site.Mild → (x.site.abortedBy i).count h + Frame.owed i h x.frames =
    (x.site.edges i h).count .drained

namespace Course.Periods

open Site

variable {self : Target} {i : Nat} {h : Handle} {x y : Course}

/-- A step that begins and ends no period. -/
theorem of_same_edges (hx : x.Periods i h) (hg : x.site.Grows y.site)
    (he : y.site.edges i h = x.site.edges i h)
    (hr : h ∈ y.site.registry i ↔ h ∈ x.site.registry i)
    (ha : (y.site.abortedBy i).count h + Frame.owed i h y.frames =
      (x.site.abortedBy i).count h + Frame.owed i h x.frames) : y.Periods i h where
  alternate := he ▸ hx.alternate
  tracked := by rw [hr, he]; exact hx.tracked
  aborted hm := by rw [ha, he]; exact hx.aborted (hm.of_grows hg)

/-- A step that begins or ends a period: the handle becomes tracked if it was not, or else is
tracked no more. -/
theorem of_new_edge (hx : x.Periods i h) (hg : x.site.Grows y.site) (e : Edge)
    (he : y.site.edges i h = x.site.edges i h ++ [e])
    (hb : e = .recorded ↔ h ∉ x.site.registry i)
    (hr : h ∈ y.site.registry i ↔ h ∉ x.site.registry i)
    (ha : (y.site.abortedBy i).count h + Frame.owed i h y.frames =
      (x.site.abortedBy i).count h + Frame.owed i h x.frames + [e].count .drained) :
    y.Periods i h where
  alternate := by
    rw [he]
    refine Edge.alternate_concat hx.alternate ?_
    rw [hb, hx.tracked]
    omega
  tracked := by
    rw [he, hr, hx.tracked, List.length_append, List.length_singleton]
    omega
  aborted hm := by
    rw [ha, he, List.count_append, hx.aborted (hm.of_grows hg)]

theorem record (s : Site) (t : Target) (k : Handle) (f g : Focus) (fs : List Frame)
    (hx : Periods i h ⟨s, f, fs⟩) : Periods i h ⟨(s.record t k).2, g, fs⟩ := by
  have hg := grows_record s t k
  have hedge := edges_record s t h i k
  rw [record_fst] at hedge
  by_cases hk : t.registryIndex = i ∧ k = h
  · obtain ⟨rfl, rfl⟩ := hk
    by_cases hm : k ∈ s.registry t.registryIndex
    · exact hx.of_same_edges hg (by simp [hedge, hm]) (by simp [hm]) (by simp)
    · exact hx.of_new_edge hg .recorded (by simp [hedge, hm]) (by simp [hm]) (by simp [hm])
        (by simp)
  · refine hx.of_same_edges hg (by simp [hedge, hk]) ?_ (by simp)
    by_cases hi : i = t.registryIndex
    · have hne : h ≠ k := fun e => hk ⟨hi.symm, e.symm⟩
      simp [hi, hne]
    · simp [hi]

theorem forget (s : Site) (t : Target) (k : Handle) (f g : Focus) (fs : List Frame)
    (hx : Periods i h ⟨s, f, fs⟩) : Periods i h ⟨(s.forget t k).2, g, fs⟩ := by
  have hg := grows_forget s t k
  have hedge := edges_forget s t h i k
  rw [forget_fst] at hedge
  by_cases hk : t.registryIndex = i ∧ k = h
  · obtain ⟨rfl, rfl⟩ := hk
    by_cases hm : k ∈ s.registry t.registryIndex
    · exact hx.of_new_edge hg .forgotten (by simp [hedge, hm]) (by simp [hm]) (by simp [hm])
        (by simp)
    · exact hx.of_same_edges hg (by simp [hedge, hm]) (by simp [hm]) (by simp)
  · refine hx.of_same_edges hg (by simp [hedge, hk]) ?_ (by simp)
    by_cases hi : i = t.registryIndex
    · have hne : h ≠ k := fun e => hk ⟨hi.symm, e.symm⟩
      simp [hi, hne]
    · simp [hi]

/-- A drain takes the handle out and owes it one abort call. -/
theorem drain (s : Site) (t : Target) (f g : Focus) (fs : List Frame)
    (hx : Periods i h ⟨s, f, fs⟩) :
    Periods i h ⟨(s.take t.registryIndex).2, g,
      .drain t (s.take t.registryIndex).1.length (s.take t.registryIndex).1 :: fs⟩ := by
  have hg := grows_take s t.registryIndex
  have hedge := edges_take s h i t.registryIndex
  have howed : Frame.owed i h (.drain t (s.take t.registryIndex).1.length
      (s.take t.registryIndex).1 :: fs) =
        (if t.registryIndex = i ∧ h ∈ (s.take t.registryIndex).1 then 1 else 0) +
          Frame.owed i h fs := by
    simp only [Frame.owed, take_fst, Registry.count_members, Registry.mem_def]
    by_cases hi : t.registryIndex = i <;> simp [hi]
  by_cases hk : t.registryIndex = i ∧ h ∈ (s.take t.registryIndex).1
  · have hm : h ∈ s.registry i := hk.1 ▸ hk.2
    rw [if_pos hk] at hedge howed
    refine hx.of_new_edge hg .drained hedge (by simp [hm]) (by simp [hk.1, hm]) ?_
    simp only [howed, abortedBy_take, List.count_singleton_self]
    omega
  · rw [if_neg hk] at hedge howed
    refine hx.of_same_edges hg (by simp [hedge]) ?_ (by simp [howed])
    by_cases hi : i = t.registryIndex
    · have hm : h ∉ s.registry i := fun c => hk ⟨hi.symm, hi ▸ c⟩
      subst hi; simp [hm]
    · simp [hi]

theorem step (hs : Step self x y) (hx : x.Periods i h) : y.Periods i h := by
  have hg := hs.grows
  cases hs with
  | record s t k fs => exact record s t k _ _ fs hx
  | forget s t k fs => exact forget s t k _ _ fs hx
  | drain s t fs => exact drain s t _ _ fs hx
  | pick s t n k hs fs =>
    refine hx.of_same_edges hg (by simp [edges, Event.edge?]) (by simp) ?_
    by_cases hi : t.registryIndex = i <;> by_cases hk : k = h <;>
      simp [abortedBy, Event.abortedBy?, Frame.owed, hi, hk]
    omega
  | giveUp s t n k hs fs f fatal =>
    -- the handles that are left are never aborted: from here on nothing is said of their number
    have hbad : ¬ (s.note (.failed k f)).Mild := fun hm => fatal (hm.ordinary (h := k) (by simp))
    refine ⟨?_, ?_, fun hm => absurd hm hbad⟩
    · simpa [edges, Event.edge?] using hx.alternate
    · simpa [edges, Event.edge?] using hx.tracked
  | settle s t n fs =>
    refine hx.of_same_edges hg (by simp [edges]) (by simp) ?_
    simp [abortedBy, Frame.owed]
  | _ =>
    refine hx.of_same_edges hg (by simp [edges, Event.edge?]) (by simp) ?_
    simp [abortedBy, Event.abortedBy?, Frame.owed]

theorem moment {s : Site} {allowed : Order → Prop} (hr : s.registry i = .empty)
    (hj : s.journal = []) (hx : s.Moment allowed x) : x.Periods i h := by
  refine hx.invariant (Periods i h) ?_ ?_ ?_ ?_
  · have hsee : ∀ {β : Type} (see : Event → Option β), s.observed see = [] := by
      simp [observed, events, hj]
    exact ⟨by simp [edges, hsee, Edge.alternate_nil], by simp [edges, hsee, hr],
      by simp [edges, abortedBy, hsee, Frame.owed]⟩
  · exact fun s o _ hs => ⟨hs.alternate, hs.tracked, hs.aborted⟩
  · exact fun s a hs => ⟨hs.alternate, hs.tracked, hs.aborted⟩
  · exact fun o x y _ hs hx => hx.step hs

end Course.Periods

namespace Site

/-- At every moment of every run over a new registry: the edges of a handle alternate, and it is
tracked when the last of them is a record. As long as abort calls end in ordinary faults at most,
drains abort it no more often than they ended its periods, and just as often when none of them is
under way. -/
theorem one_end_per_period (s : Site) (i : Nat) (h : Handle) (hr : s.registry i = .empty)
    (hj : s.journal = []) (x : Course) (hx : s.Moment (fun _ => True) x) :
    Edge.Alternate (x.site.edges i h) ∧
    (h ∈ x.site.registry i ↔ (x.site.edges i h).getLast? = some .recorded) ∧
    (x.site.Mild → (x.site.abortedBy i).count h ≤ (x.site.edges i h).count .drained ∧
      (Frame.NoDrain i x.frames →
        (x.site.abortedBy i).count h = (x.site.edges i h).count .drained)) := by
  have hp : x.Periods i h := Course.Periods.moment hr hj hx
  refine ⟨hp.alternate, ?_, fun hm => ⟨?_, fun hn => ?_⟩⟩
  · rw [Edge.alternate_last hp.alternate, hp.tracked]
  · have ha := hp.aborted hm
    omega
  · have ha := hp.aborted hm
    rw [Frame.owed_eq_zero hn] at ha
    omega

/-- A transport that records itself and asks for another drain when it is aborted first, and forgets
itself when it is aborted again; both calls end in a fault. -/
def echo : Site :=
  ({} : Site).setTransport "a"
    { reaction := fun n =>
        { requests := if n = 0 then [.record "a", .drain] else [.forget "a"]
          fault := some .tooDeep } }

def echoOrders : List Order :=
  [.record "a", .drain, .record "a"].map fun q => ⟨.registry 0, ⟨.registry 0, q⟩⟩

theorem one_end_per_period_echo :
    echo.registry 0 = .empty ∧ echo.journal = [] ∧ (echo.obeyAll echoOrders).Mild ∧
    (echo.obeyAll echoOrders).edges 0 "a" =
      [.recorded, .drained, .recorded, .drained, .recorded] ∧
    ("a" ∈ (echo.obeyAll echoOrders).registry 0 ↔
      ((echo.obeyAll echoOrders).edges 0 "a").getLast? = some .recorded) ∧
    ((echo.obeyAll echoOrders).abortedBy 0).count "a" =
      ((echo.obeyAll echoOrders).edges 0 "a").count .drained := by
  have h := one_end_per_period echo 0 "a" rfl rfl _ (.rest echoOrders fun _ _ => trivial)
  have hm : (echo.obeyAll echoOrders).Mild := by decide
  exact ⟨rfl, rfl, hm, by decide, h.2.1, (h.2.2 hm).2 (by simp [Frame.NoDrain])⟩

end Site
end Linkcut
