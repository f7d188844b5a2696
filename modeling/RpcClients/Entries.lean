/-! # Association lists -/

namespace RpcClients

/-- Sets the value of a key: in place if it is there, else at the end. -/
def putEntry {α β : Type} [DecidableEq α] (key : α) (value : β) : List (α × β) → List (α × β)
  | [] => [(key, value)]
  | (other, old) :: rest =>
    if other = key then (key, value) :: rest else (other, old) :: putEntry key value rest

end RpcClients
