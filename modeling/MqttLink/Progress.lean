/-!
# Work that may have to wait

Nothing here ever blocks. Work that cannot go on is given back and tried again later.
-/

namespace MqttLink

inductive Progress (π α : Type) where
  | waiting (work : π)
  | done (result : α)
  deriving Repr

namespace Progress

variable {π π' α α' : Type}

def map (onWork : π → π') (onResult : α → α') : Progress π α → Progress π' α'
  | waiting work => waiting (onWork work)
  | done result => done (onResult result)

def isDone : Progress π α → Bool
  | waiting _ => false
  | done _ => true

end Progress

end MqttLink
