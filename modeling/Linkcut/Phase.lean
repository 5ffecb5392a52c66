/-!
The phases of a messaging session, in the order in which a session passes through them.
-/

set_option autoImplicit false

namespace Linkcut

inductive Phase where
  | established
  | probeSent
  | waitingForSignal
  | disconnectArmed
  | terminated
  deriving DecidableEq, Repr, Inhabited

namespace Phase

def all : List Phase := [established, probeSent, waitingForSignal, disconnectArmed, terminated]

theorem mem_all (p : Phase) : p ∈ all := by cases p <;> decide

def rank : Phase → Nat
  | established => 0
  | probeSent => 1
  | waitingForSignal => 2
  | disconnectArmed => 3
  | terminated => 4

def text : Phase → String
  | established => "established"
  | probeSent => "probe_sent"
  | waitingForSignal => "waiting_for_signal"
  | disconnectArmed => "disconnect_armed"
  | terminated => "terminated"

def label : Phase → String
  | established => "ESTABLISHED"
  | probeSent => "PROBE_SENT"
  | waitingForSignal => "WAITING_FOR_SIGNAL"
  | disconnectArmed => "DISCONNECT_ARMED"
  | terminated => "TERMINATED"

def ofText? (s : String) : Option Phase := all.find? (·.text == s)

@[simp] theorem ofText?_text (p : Phase) : ofText? p.text = some p := by cases p <;> decide

def qualified (p : Phase) : String := "SessionState." ++ p.label

end Phase
end Linkcut
