import Linkcut.Scheduler.Action

/-!
Commands to an agenda, and runs of them: what callers and the clock ask of it, one after the other.
-/

set_option autoImplicit false

namespace Linkcut.Agenda

inductive Command where
  | arm (subject : Subject) (action : Action)
  /-- Arms where no loop runs. -/
  | armOutside (subject : Subject)
  /-- Time passes, in microseconds. -/
  | advance (micros : Nat)
  | cancelAll

inductive Answer where
  | armed (result : Except Fault Bool)
  /-- The faults that were left to the loop. -/
  | escaped (faults : List Fault)
  | cancelled (count : Nat)

def obey (a : Agenda) : Command → Answer × Agenda
  | .arm subject action => let (r, a) := a.arm subject action; (.armed r, a)
  | .armOutside subject => (.armed (a.armOutside subject), a)
  | .advance micros => let (fs, a) := a.advance micros; (.escaped fs, a)
  | .cancelAll => let (n, a) := a.cancelAll; (.cancelled n, a)

/-- Obeys commands in order; the answers, and the agenda after the last of them. -/
def obeyAll (a : Agenda) : List Command → List Answer × Agenda
  | [] => ([], a)
  | k :: ks =>
    let (r, a) := a.obey k
    let (rs, a) := a.obeyAll ks
    (r :: rs, a)

@[simp] theorem obeyAll_nil (a : Agenda) : a.obeyAll [] = ([], a) := rfl

theorem obeyAll_cons (a : Agenda) (k : Command) (ks : List Command) :
    a.obeyAll (k :: ks) =
      ((a.obey k).1 :: ((a.obey k).2.obeyAll ks).1, ((a.obey k).2.obeyAll ks).2) := rfl

end Linkcut.Agenda
