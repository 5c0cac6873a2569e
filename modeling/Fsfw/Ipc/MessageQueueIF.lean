import Mathlib

/-!
# Message queues

Messages are sent to queues, which are known by their ids.  Objects are known by ids of their own.
-/

abbrev MessageQueueId := UInt32

abbrev ObjectId := UInt32

namespace MessageQueueIF

/-- The id that stands for no queue. -/
def noQueue : MessageQueueId := 0

end MessageQueueIF
