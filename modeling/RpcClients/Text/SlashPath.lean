import RpcClients.Text.Split

/-! # Paths with slashes: last component and joining -/

namespace RpcClients.Text

/-- What stands after the last slash. -/
def baseName (path : String) : String := String.ofList (afterLast '/' path.toList)

/-- Joins two paths by one slash. An empty first path adds none, and a second path that starts with
a slash replaces the first. -/
def joinPath (first second : String) : String :=
  if second.toList.head? = some '/' then second
  else if first = "" ∨ first.toList.getLast? = some '/' then first ++ second
  else first ++ "/" ++ second

end RpcClients.Text
