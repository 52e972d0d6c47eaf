import Mathlib.Data.List.Basic

/-!
# `OrgCli.Support.Channel`: an mpsc channel with one sender

The channel of `std::sync::mpsc` with a single sender: a FIFO queue and the two ends that
are still there. `send` puts a value at the end of the queue, and it fails when the receiver
is gone. A receiver takes from the front. It is told that the channel is closed only when
the queue is empty: dropping the sender keeps what is queued.

Nothing here names the program.
-/

set_option autoImplicit false

namespace OrgCli.Support

/-- A channel: what is queued, and whether each end is still there. -/
structure Channel (α : Type) where
  queue : List α
  sender : Bool
  receiver : Bool

namespace Channel

variable {α : Type}

/-- A new channel. -/
def new : Channel α := ⟨[], true, true⟩

/-- `Sender::send`: it fails when the receiver is gone. -/
def send (c : Channel α) (a : α) : Option (Channel α) :=
  if c.receiver then some { c with queue := c.queue ++ [a] } else none

/-- The channel after its sender is dropped. -/
def dropSender (c : Channel α) : Channel α := { c with sender := false }

/-- The channel after its receiver is dropped. -/
def dropReceiver (c : Channel α) : Channel α := { c with receiver := false }

/-- The value that the receiver takes, and the channel after it. -/
def take? (c : Channel α) : Option (α × Channel α) :=
  match c.queue with
  | [] => none
  | a :: rest => some (a, { c with queue := rest })

/-- A receiver has to wait: nothing is queued, and more may come. -/
def Pending (c : Channel α) : Prop := c.queue = [] ∧ c.sender = true

/-- A receiver is told that the channel is closed: nothing is queued, and nothing will be. -/
def Closed (c : Channel α) : Prop := c.queue = [] ∧ c.sender = false

/-- A value that is taken was the oldest one. -/
theorem take?_eq_some_iff {c d : Channel α} {a : α} :
    c.take? = some (a, d) ↔ c.queue = a :: d.queue ∧ d = { c with queue := d.queue } := by
  obtain ⟨queue, sender, receiver⟩ := c
  obtain ⟨queue', sender', receiver'⟩ := d
  cases queue with
  | nil => simp [take?]
  | cons b rest =>
      constructor
      · intro h
        cases h
        exact ⟨rfl, rfl⟩
      · intro h
        obtain ⟨hqueue, hchannel⟩ := h
        cases hqueue
        rw [hchannel]
        rfl

/-- A closed channel has nothing to take. -/
theorem Closed.take? {c : Channel α} (h : c.Closed) : c.take? = none := by
  unfold Channel.take?
  rw [h.1]

/-- A channel that is closed is not pending. -/
theorem Closed.not_pending {c : Channel α} (h : c.Closed) : ¬ c.Pending := by
  intro hp
  have hsender : true = false := hp.2.symm.trans h.2
  cases hsender

end Channel

end OrgCli.Support
