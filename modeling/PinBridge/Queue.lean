/-!
# Answers in advance

A queue of answers for something that is asked again and again. An entry is an answer, or the remark
that the answer is the usual one, and the usual one is also the answer once the queue is empty.
-/

namespace PinBridge

/-- Answers in advance, the next one first. -/
abbrev Queue (α : Type) : Type := List (Option α)

namespace Queue

variable {α : Type}

/-- The next answer, where `usual` is the usual one. -/
def head (queue : Queue α) (usual : α) : α := queue.head?.join.getD usual

/-- The next answer, and what is left of the queue. -/
def next (queue : Queue α) (usual : α) : α × Queue α := (queue.head usual, queue.tail)

end Queue

end PinBridge
