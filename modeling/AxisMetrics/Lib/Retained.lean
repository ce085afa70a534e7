import Mathlib.Tactic.Common

/-!
# Retained messages

What an MQTT broker keeps for subscribers that come later: for each topic the payload of the
last message that asked for it, and nothing after an empty payload.
-/

namespace Lib

structure Message (Topic Payload : Type) where
  topic : Topic
  payload : Payload
  qos : ℕ
  retained : Bool
  deriving DecidableEq

/-- The retained payloads by topic. -/
abbrev Retained (Topic Payload : Type) := Topic → Option Payload

variable {Topic Payload : Type} [DecidableEq Topic] [EmptyCollection Payload]
variable [DecidableEq Payload]

/-- The broker receives a message. -/
def Retained.receive (broker : Retained Topic Payload) (message : Message Topic Payload) :
    Retained Topic Payload :=
  if message.retained then
    Function.update broker message.topic
      (if message.payload = ∅ then none else some message.payload)
  else broker

/-- The broker receives messages in order. -/
def Retained.receiveAll (broker : Retained Topic Payload)
    (messages : List (Message Topic Payload)) : Retained Topic Payload :=
  messages.foldl Retained.receive broker

variable {broker : Retained Topic Payload} {message : Message Topic Payload} {topic : Topic}

theorem receive_of_ne (h : topic ≠ message.topic) : broker.receive message topic = broker topic := by
  unfold Retained.receive
  split
  · exact Function.update_of_ne h _ _
  · rfl

theorem receive_self (message : Message Topic Payload) (hretained : message.retained = true)
    (hpayload : message.payload ≠ ∅) :
    broker.receive message message.topic = some message.payload := by
  rw [Retained.receive, if_pos hretained, Function.update_self, if_neg hpayload]

theorem receiveAll_append (messages messages' : List (Message Topic Payload)) :
    broker.receiveAll (messages ++ messages') =
      (broker.receiveAll messages).receiveAll messages' :=
  List.foldl_append

/-- Topics without a message keep what they have. -/
theorem receiveAll_of_notMem {messages : List (Message Topic Payload)}
    (h : ∀ message ∈ messages, topic ≠ message.topic) :
    broker.receiveAll messages topic = broker topic := by
  induction messages generalizing broker with
  | nil => rfl
  | cons message messages ih =>
    obtain ⟨hhead, htail⟩ := List.forall_mem_cons.mp h
    rw [Retained.receiveAll, List.foldl_cons]
    exact (ih htail).trans (receive_of_ne hhead)

end Lib
