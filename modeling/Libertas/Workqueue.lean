/-!
# Delayed work

A work item of a queue with a single thread. The timer and the queue are told
apart, because cancelling an item stops its timer only.
-/

namespace Libertas

/-- A delayed work item: not pending, waiting for its timer, or on the work queue. -/
inductive DelayedWork
  | idle
  | timer
  | queued
deriving DecidableEq, Repr

namespace DelayedWork

/-- `queue_delayed_work` leaves a pending item alone. -/
def queueDelayedWork : DelayedWork → DelayedWork
  | .idle => .timer
  | .timer => .timer
  | .queued => .queued

/-- `cancel_delayed_work` stops the timer. An item on the queue stays there. -/
def cancelDelayedWork : DelayedWork → DelayedWork
  | .idle => .idle
  | .timer => .idle
  | .queued => .queued

end DelayedWork

end Libertas
