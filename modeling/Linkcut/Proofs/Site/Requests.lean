import Linkcut.Proofs.Site.Course

/-!
What records, forgets and drains do: to registries, to the counters of their managers, and to what
one observes in the journal.
-/

set_option autoImplicit false

namespace Linkcut

@[simp] theorem Registry.insert_of_mem {r : Registry} {h : Handle} (hm : h ∈ r) :
    r.insert h = r := by
  have hm' : h ∈ r.members := hm
  simp [insert, hm']

@[simp] theorem Registry.erase_of_not_mem {r : Registry} {h : Handle} (hm : h ∉ r) :
    r.erase h = r := by
  have hm' : h ∉ r.members := hm
  simp [erase, List.erase_of_not_mem hm']

theorem Registry.count_members (r : Registry) (h : Handle) :
    r.members.count h = if h ∈ r then 1 else 0 := r.nodup.count

namespace Site

/-- What one sees in the journal through `see`, in the order in which it happened. -/
def observed {β : Type} (s : Site) (see : Event → Option β) : List β := s.events.filterMap see

section Observed

variable {β : Type} (s : Site) (see : Event → Option β) (i : Nat) (h : Handle)

@[simp] theorem observed_note (e : Event) :
    (s.note e).observed see = s.observed see ++ (see e).toList := by
  cases he : see e <;> simp [observed, events, he]

@[simp] theorem observed_log (entry : Log.Entry) :
    (s.log entry).observed see = s.observed see ++ (see (.logged entry)).toList :=
  observed_note s see _

@[simp] theorem observed_setRegistry (r : Registry) :
    (s.setRegistry i r).observed see = s.observed see := rfl

@[simp] theorem observed_setTransport (t : Transport) :
    (s.setTransport h t).observed see = s.observed see := rfl

@[simp] theorem observed_count (c : Counter) (n : Int) :
    (s.count i c n).observed see = s.observed see := rfl

@[simp] theorem observed_settle (t : Target) (n : Nat) :
    (s.settle t n).observed see = s.observed see := by cases t <;> rfl

@[simp] theorem observed_beginAbort : (s.beginAbort h).observed see = s.observed see := rfl

/-- A recorded handle is seen when it was not tracked; entries of the log are not looked at. -/
theorem observed_record (hl : ∀ entry, see (.logged entry) = none) (t : Target) :
    (s.record t h).2.observed see =
      s.observed see ++ if h ∈ s.registry t.registryIndex then []
        else (see (.recorded t.registryIndex h)).toList := by
  by_cases hm : h ∈ s.registry t.registryIndex <;> cases t <;>
    simp_all [record, insert, Target.registryIndex]

theorem observed_forget (hl : ∀ entry, see (.logged entry) = none) (t : Target) :
    (s.forget t h).2.observed see =
      s.observed see ++ if h ∈ s.registry t.registryIndex
        then (see (.forgotten t.registryIndex h)).toList else [] := by
  by_cases hm : h ∈ s.registry t.registryIndex <;> cases t <;>
    simp_all [forget, erase, Target.registryIndex]

@[simp] theorem observed_take :
    (s.take i).2.observed see =
      s.observed see ++ (see (.drained i (s.registry i).members)).toList := by
  simp [take]

end Observed

section Stores

variable (s : Site) (t : Target) (h : Handle) (i j k : Nat)

@[simp] theorem registry_log (entry : Log.Entry) : (s.log entry).registry j = s.registry j := rfl
@[simp] theorem tallies_log (entry : Log.Entry) : (s.log entry).tallies k = s.tallies k := rfl

@[simp] theorem registry_record :
    (s.record t h).2.registry j =
      if j = t.registryIndex then (s.registry j).insert h else s.registry j := by
  by_cases hm : h ∈ s.registry t.registryIndex <;> by_cases hj : j = t.registryIndex <;>
    cases t <;> simp_all [record, insert, Target.registryIndex]

@[simp] theorem registry_forget :
    (s.forget t h).2.registry j =
      if j = t.registryIndex then (s.registry j).erase h else s.registry j := by
  by_cases hm : h ∈ s.registry t.registryIndex <;> by_cases hj : j = t.registryIndex <;>
    cases t <;> simp_all [forget, erase, Target.registryIndex]

@[simp] theorem registry_take :
    (s.take i).2.registry j = if j = i then .empty else s.registry j := by
  simp [take]

theorem record_fst : (s.record t h).1 = decide (h ∉ s.registry t.registryIndex) := by
  by_cases hm : h ∈ s.registry t.registryIndex <;> cases t <;>
    simp_all [record, insert, Target.registryIndex]

theorem forget_fst : (s.forget t h).1 = decide (h ∈ s.registry t.registryIndex) := by
  by_cases hm : h ∈ s.registry t.registryIndex <;> cases t <;>
    simp_all [forget, erase, Target.registryIndex]

theorem take_fst : (s.take i).1 = (s.registry i).members := rfl

@[simp] theorem registry_settle (n : Nat) : (s.settle t n).registry j = s.registry j := by
  cases t <;> rfl

@[simp] theorem registry_beginAbort : (s.beginAbort h).registry j = s.registry j := rfl

@[simp] theorem tallies_record_registry :
    (s.record (.registry i) h).2.tallies k = s.tallies k := by
  by_cases hm : h ∈ s.registry i <;> simp [record, insert, Target.registryIndex, hm]

@[simp] theorem tallies_record_manager (m : Manager) :
    (s.record (.manager m) h).2.tallies k =
      if k = m.counters ∧ h ∉ s.registry m.registry then (s.tallies k).add .accepted 1
      else s.tallies k := by
  by_cases hm : h ∈ s.registry m.registry <;> by_cases hk : k = m.counters <;>
    simp [record, insert, Target.registryIndex, hm, hk]

@[simp] theorem tallies_forget_registry :
    (s.forget (.registry i) h).2.tallies k = s.tallies k := by
  by_cases hm : h ∈ s.registry i <;> simp [forget, erase, Target.registryIndex, hm]

@[simp] theorem tallies_forget_manager (m : Manager) :
    (s.forget (.manager m) h).2.tallies k =
      if k = m.counters ∧ h ∈ s.registry m.registry then (s.tallies k).add .closed 1
      else s.tallies k := by
  by_cases hm : h ∈ s.registry m.registry <;> by_cases hk : k = m.counters <;>
    simp [forget, erase, Target.registryIndex, hm, hk]

@[simp] theorem tallies_take : (s.take i).2.tallies k = s.tallies k := rfl

@[simp] theorem tallies_beginAbort : (s.beginAbort h).tallies k = s.tallies k := rfl

end Stores

end Site
end Linkcut
