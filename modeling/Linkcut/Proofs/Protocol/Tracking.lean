import Linkcut.Proofs.Site.Passive
import Linkcut.Protocol.Command
import Mathlib.Data.List.Induction

/-!
What protocols report, and what is tracked by it. A connection is tracked when the last event that
concerns it made it: protocols concern the connection that they were given last, and a drain
concerns all of them. How wrapped protocols end their calls makes no difference.
-/

set_option autoImplicit false

namespace Linkcut.Protocols

namespace Command

def given? (name : String) : Command → Option Handle
  | made n h _ => if n = name then some h else none
  | _ => none

/-- What the wrapped protocol is told, with so many connections tracked. -/
def notice? (live : Nat) : Command → Option Protocol.Notice
  | made _ h _ => some (.made h live)
  | lost _ fault _ => some (.lost fault live)
  | drain => none

/-- How the wrapped protocol ends the call. -/
def wrapped? : Command → Option (Option Fault)
  | made _ _ wrapped | lost _ _ wrapped => some wrapped
  | drain => none

end Command

def Answer.call? : Answer → Option (Option Fault)
  | call fault => some fault
  | reply _ => none

/-- The site when the manager has answered a request. -/
def ask (ps : Protocols) (q : Request) : Site :=
  (ps.site.perform (.manager ps.manager) (.manager ps.manager) q).2

/-- What a command comes to at the manager; the loss of a connection that was never made comes to
nothing. -/
def request? (ps : Protocols) : Command → Option Request
  | .made _ h _ => some (.record h)
  | .lost name .. => (ps.remembers name).map .forget
  | .drain => some .drain

/-- What a command does, from `ps` to `qs` with the answer `a`. -/
structure Effect (ps : Protocols) (k : Command) (a : Answer) (qs : Protocols) : Prop where
  manager : qs.manager = ps.manager
  site : qs.site = ((ps.request? k).map ps.ask).getD ps.site
  remembers : ∀ name, qs.remembers name = (k.given? name).or (ps.remembers name)
  knows : ∀ j, qs.knows j = ps.knows j
  notices : qs.notices = (k.notice? qs.live).toList ++ ps.notices
  answer : a.call? = k.wrapped?

section Step

variable {ps qs : Protocols}

theorem knows_congr (h : ∀ n, (qs.table.lookup n).isSome = (ps.table.lookup n).isSome)
    (k : Command) : qs.knows k = ps.knows k := by
  cases k with
  | made name | lost name => exact h name
  | drain => rfl

theorem effect_made {name : String} {p : Protocol} (hp : ps.table.lookup name = some p)
    (h : Handle) (f : Option Fault) :
    Effect ps (.made name h f) (ps.step (.made name h f)).1 (ps.step (.made name h f)).2 := by
  have hstep : ps.step (.made name h f) = (.call f, ({ ps with
      site := ps.ask (.record h)
      table := (ps.table.enter name { p with failMade := f, failLost := f }).enter name
        { handle := some h, failMade := f, failLost := f } } : Protocols).tell
        (.made h ((ps.ask (.record h)).registry ps.manager.registry).size)) := by
    simp only [step, wrapping, hp, made, Names.lookup_enter, if_true]
    rfl
  rw [hstep]
  refine ⟨rfl, rfl, fun n => ?_, knows_congr fun n => ?_, rfl, rfl⟩
  · by_cases hn : n = name
    · simp [remembers, tell, Names.lookup_enter, Command.given?, hn]
    · simp [remembers, tell, Names.lookup_enter, Command.given?, hn, Ne.symm hn]
  · by_cases hn : n = name <;> simp [tell, Names.lookup_enter, hn, hp]

theorem effect_lost {name : String} {p : Protocol} (hp : ps.table.lookup name = some p)
    (e f : Option Fault) :
    Effect ps (.lost name e f) (ps.step (.lost name e f)).1 (ps.step (.lost name e f)).2 := by
  have hstep : ps.step (.lost name e f) = (.call f, ({ ps with
      site := (p.handle.map fun h => ps.ask (.forget h)).getD ps.site
      table := ps.table.enter name { p with failMade := f, failLost := f } } : Protocols).tell
        (.lost e (((p.handle.map fun h => ps.ask (.forget h)).getD ps.site).registry
          ps.manager.registry).size)) := by
    simp only [step, wrapping, hp, lost, Names.lookup_enter, if_true]
    cases p.handle <;> rfl
  have hp' : ps.remembers name = p.handle := by simp [remembers, hp]
  rw [hstep]
  refine ⟨rfl, ?_, fun n => ?_, knows_congr fun n => ?_, rfl, rfl⟩
  · simp only [request?, hp', Option.map_map]
    rfl
  · by_cases hn : n = name <;>
      simp [remembers, tell, Names.lookup_enter, Command.given?, hn, hp]
  · by_cases hn : n = name <;> simp [tell, Names.lookup_enter, hn, hp]

theorem effect {k : Command} (hk : ps.knows k) : Effect ps k (ps.step k).1 (ps.step k).2 := by
  cases k with
  | made name h f =>
    obtain ⟨p, hp⟩ := Option.isSome_iff_exists.1 hk
    exact effect_made hp h f
  | lost name e f =>
    obtain ⟨p, hp⟩ := Option.isSome_iff_exists.1 hk
    exact effect_lost hp e f
  | drain =>
    exact ⟨rfl, rfl, fun n => by simp [Command.given?, remembers, step, request],
      knows_congr fun n => rfl, rfl, rfl⟩

end Step

/-- The connection that the protocol was given last. -/
def latest (name : String) (past : List Command) : Option Handle :=
  (past.filterMap (Command.given? name)).getLast?

/-- Whether the command, after those of the past, makes the connection or ends it. -/
def Command.concerns? (past : List Command) (t : Handle) : Command → Option Bool
  | made _ h _ => if h = t then some true else none
  | lost name .. => if latest name past = some t then some false else none
  | drain => some false

/-- The events that concern a connection, in order: true where it is made, false where it is lost
or drained. -/
def concerning (t : Handle) : List Command → List Command → List Bool
  | _, [] => []
  | past, k :: ks => (k.concerns? past t).toList ++ concerning t (past ++ [k]) ks

theorem concerning_concat (t : Handle) (past ks : List Command) (k : Command) :
    concerning t past (ks ++ [k]) =
      concerning t past ks ++ (k.concerns? (past ++ ks) t).toList := by
  induction ks generalizing past with
  | nil => simp [concerning]
  | cons j js ih => simp [concerning, ih]

/-- What wrapped protocols are to be told along a run: of each call once, with its argument, and
with the connections that are tracked when the call has been reported. -/
def toTell (ps : Protocols) : List Command → List Protocol.Notice
  | [] => []
  | k :: ks => (k.notice? (ps.step k).2.live).toList ++ (ps.step k).2.toTell ks

/-- Nothing is tracked, and no protocol has been given a connection. -/
structure IsNew (ps : Protocols) : Prop where
  tracked : ps.tracked = .empty
  unused : ∀ e ∈ ps.table, e.2.handle = none

theorem IsNew.remembers {ps : Protocols} (h : ps.IsNew) (name : String) :
    ps.remembers name = none := by
  rw [Protocols.remembers, Option.bind_eq_none_iff]
  intro p hp
  obtain ⟨before, after, htable, _⟩ := List.lookup_eq_some_iff.1 hp
  exact h.unused (name, p) (by simp [htable])

section Step

variable {ps : Protocols} {k : Command} {past : List Command} {t : Handle}

theorem grows_step (hk : ps.knows k) : ps.site.Grows (ps.step k).2.site := by
  rw [(effect hk).site]
  cases ps.request? k with
  | none => exact .refl ps.site
  | some q => exact ps.site.grows_perform _ _ q

theorem tracked_of_request {q : Request} (hk : ps.knows k) (hq : ps.request? k = some q) :
    (ps.step k).2.tracked = (ps.ask q).registry ps.manager.registry := by
  rw [tracked, (effect hk).manager, (effect hk).site, hq]
  rfl

/-- A command that concerns the connection decides whether it is tracked, and no other changes
that. -/
theorem tracked_step (hk : ps.knows k) (passive : ps.site.Passive t)
    (hr : ∀ name, ps.remembers name = latest name past) :
    t ∈ (ps.step k).2.tracked ↔
      k.concerns? past t = some true ∨ k.concerns? past t = none ∧ t ∈ ps.tracked := by
  cases k with
  | made name h f =>
    rw [tracked_of_request hk rfl]
    change t ∈ (ps.site.record (.manager ps.manager) h).2.registry ps.manager.registry ↔ _
    by_cases ht : h = t
    · simp [Command.concerns?, Target.registryIndex, ht]
    · simp [Command.concerns?, Target.registryIndex, tracked, ht, Ne.symm ht]
  | lost name e f =>
    cases hl : latest name past with
    | none =>
      have hq : ps.request? (.lost name e f) = none := by simp [request?, hr, hl]
      have hsame : (ps.step (.lost name e f)).2.tracked = ps.tracked := by
        rw [tracked, (effect hk).manager, (effect hk).site, hq]
        rfl
      simp [hsame, Command.concerns?, hl]
    | some h =>
      have hq : ps.request? (.lost name e f) = some (.forget h) := by simp [request?, hr, hl]
      rw [tracked_of_request hk hq]
      change t ∈ (ps.site.forget (.manager ps.manager) h).2.registry ps.manager.registry ↔ _
      by_cases ht : h = t
      · simp [Command.concerns?, Target.registryIndex, hl, ht]
      · simp [Command.concerns?, Target.registryIndex, tracked, hl, ht, Ne.symm ht]
  | drain =>
    rw [tracked_of_request hk rfl]
    have hout : t ∉ (ps.ask .drain).registry ps.manager.registry :=
      Site.not_mem_drain passive _ (.manager ps.manager)
    simpa [Command.concerns?] using hout

end Step

section Run

variable {ps : Protocols} {ks : List Command}

theorem run_concat (ps : Protocols) (ks : List Command) (k : Command) :
    (ps.run (ks ++ [k])).2 = ((ps.run ks).2.step k).2 := by
  rw [run_append]
  rfl

/-- What calls to built protocols keep, and what the protocols remember after them. -/
structure Kept (ps : Protocols) (ks : List Command) (qs : Protocols) : Prop where
  manager : qs.manager = ps.manager
  knows : ∀ k, qs.knows k = ps.knows k
  remembers : ∀ name, qs.remembers name = (latest name ks).or (ps.remembers name)
  grows : ps.site.Grows qs.site

theorem kept_run (hks : ∀ k ∈ ks, ps.knows k) : ps.Kept ks (ps.run ks).2 := by
  induction ks using List.reverseRecOn with
  | nil => exact ⟨rfl, fun _ => rfl, fun _ => rfl, .refl ps.site⟩
  | append_singleton ks k ih =>
    have hbefore := ih fun j hj => hks j (by simp [hj])
    have hk : (ps.run ks).2.knows k := (hbefore.knows k).trans (hks k (by simp))
    have he := effect hk
    rw [run_concat]
    refine ⟨he.manager.trans hbefore.manager, fun j => (he.knows j).trans (hbefore.knows j),
      fun name => ?_, hbefore.grows.trans (grows_step hk)⟩
    rw [he.remembers, hbefore.remembers, latest, latest, List.filterMap_append]
    cases hg : k.given? name <;> simp [hg]

/-- What holds at first, and is kept by every command, holds after a run. -/
theorem run_invariant (hks : ∀ k ∈ ks, ps.knows k) (inv : List Command → Protocols → Prop)
    (initially : inv [] ps)
    (step : ∀ past k qs, ps.Kept past qs → qs.knows k → inv past qs →
      inv (past ++ [k]) (qs.step k).2) : inv ks (ps.run ks).2 := by
  induction ks using List.reverseRecOn with
  | nil => exact initially
  | append_singleton ks k ih =>
    have hbefore : ∀ j ∈ ks, ps.knows j := fun j hj => hks j (by simp [hj])
    have hkept := kept_run hbefore
    rw [run_concat]
    exact step ks k _ hkept ((hkept.knows k).trans (hks k (by simp))) (ih hbefore)

theorem Kept.latest {past : List Command} {qs : Protocols} (h : ps.Kept past qs) (hnew : ps.IsNew)
    (name : String) : qs.remembers name = latest name past := by
  simp [h.remembers, hnew.remembers]

/-- A new system tracks what the last event that concerns it has made. -/
theorem tracked_run (hnew : ps.IsNew) (hks : ∀ k ∈ ks, ps.knows k) {t : Handle}
    (passive : ps.site.Passive t) :
    t ∈ (ps.run ks).2.tracked ↔ (concerning t [] ks).getLast? = some true := by
  refine run_invariant hks
    (fun past qs => t ∈ qs.tracked ↔ (concerning t [] past).getLast? = some true) ?_ ?_
  · simp [hnew.tracked, concerning]
  · intro past k qs hkept hk ih
    rw [tracked_step hk (passive.of_grows hkept.grows) (hkept.latest hnew), concerning_concat,
      List.nil_append, ih]
    cases hc : k.concerns? past t <;> simp

theorem notices_run (hks : ∀ k ∈ ks, ps.knows k) :
    (ps.run ks).2.notices.reverse = ps.notices.reverse ++ ps.toTell ks := by
  induction ks generalizing ps with
  | nil => simp [toTell]
  | cons k ks ih =>
    have he := effect (hks k (by simp))
    have hrest := ih fun j hj => (he.knows j).trans (hks j (by simp [hj]))
    rw [run_cons, hrest, he.notices, toTell]
    cases k.notice? (ps.step k).2.live <;> simp

theorem answers_run (hks : ∀ k ∈ ks, ps.knows k) :
    (ps.run ks).1.map Answer.call? = ks.map Command.wrapped? := by
  induction ks generalizing ps with
  | nil => rfl
  | cons k ks ih =>
    have he := effect (hks k (by simp))
    have hrest := ih fun j hj => (he.knows j).trans (hks j (by simp [hj]))
    simp [run_cons, hrest, he.answer]

end Run

/-- After any calls and drains over any number of protocols with one manager, a connection that no
abort call records is tracked exactly when the last event that concerns it has made it. Each call
tells the wrapped protocol once, with its own argument, when it has been reported, and comes out as
the wrapped protocol does. -/
theorem tracked_iff_made_last (ps : Protocols) (hnew : ps.IsNew) (ks : List Command)
    (hks : ∀ k ∈ ks, ps.knows k) (t : Handle) (passive : ps.site.Passive t) :
    (t ∈ (ps.run ks).2.tracked ↔ (concerning t [] ks).getLast? = some true) ∧
    (ps.run ks).2.notices.reverse = ps.notices.reverse ++ ps.toTell ks ∧
    (ps.run ks).1.map Answer.call? = ks.map Command.wrapped? :=
  ⟨tracked_run hnew hks passive, notices_run hks, answers_run hks⟩

/-- Three protocols. A drain that aborts the connection "a" has it record another one and then ends
in a fatal fault. -/
def switchboard : Protocols where
  site := ({} : Site).setTransport "a"
    { reaction := fun _ => { requests := [.record "b", .drain], fault := some (.exit 1) } }
  table := [("plain", {}), ("upgraded", {}), ("idle", {})]

/-- A loss of nothing, an upgrade that the wrapped protocol fails, a drain, two losses that come too
late, and the connection made once more. -/
def patchwork : List Command :=
  [.lost "idle" none none, .made "plain" "a" none, .made "upgraded" "a" (some .tooDeep), .drain,
    .lost "upgraded" none none, .lost "upgraded" (some .noHome) (some .tooDeep),
    .made "plain" "a" none]

theorem tracked_iff_made_last_patchwork :
    switchboard.IsNew ∧ (∀ k ∈ patchwork, switchboard.knows k) ∧ switchboard.site.Passive "a" ∧
    ("a" ∈ (switchboard.run patchwork).2.tracked ↔
      (concerning "a" [] patchwork).getLast? = some true) ∧
    concerning "a" [] patchwork = [true, true, false, false, false, true] ∧
    "a" ∈ (switchboard.run patchwork).2.tracked ∧
    (switchboard.run patchwork).2.notices.reverse =
      switchboard.notices.reverse ++ switchboard.toTell patchwork ∧
    (switchboard.run patchwork).1.map Answer.call? = patchwork.map Command.wrapped? := by
  have hnew : switchboard.IsNew := ⟨rfl, by decide⟩
  have hknown : ∀ k ∈ patchwork, switchboard.knows k := by decide
  have passive : switchboard.site.Passive "a" := by
    intro k n hin
    by_cases hk : k = "a" <;> simp [switchboard, hk] at hin
    simp [Site.transport, Table.get, Table.lookup] at hin
  have h := tracked_iff_made_last switchboard hnew patchwork hknown "a" passive
  exact ⟨hnew, hknown, passive, h.1, by decide, h.1.2 (by decide), h.2⟩

end Linkcut.Protocols
