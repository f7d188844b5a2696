import RpcClients.Failure
import RpcClients.Schema.Descriptor
import RpcClients.Wire.Basic

/-! # Levels of descriptors

A descriptor that is put into another one is written and read again, so it can hold no more levels than
a message that is read. -/

namespace RpcClients.Schema

def EnumDescriptor.levels (enum : EnumDescriptor) : Nat := if enum.values.isEmpty then 0 else 1

mutual

/-- How many levels of descriptors are in a message. -/
def MessageDescriptor.levels : MessageDescriptor → Nat
  | ⟨_, fields, nested, enums, oneofs, mapEntry⟩ =>
    let parts := if fields.isEmpty && oneofs.isEmpty && !mapEntry then 0 else 1
    max parts (max (levelsWith nested) ((enums.map (·.levels + 1)).foldr max 0))

/-- How many levels there are if these messages are put into a descriptor. -/
def levelsWith : List MessageDescriptor → Nat
  | [] => 0
  | message :: rest => max (message.levels + 1) (levelsWith rest)

end

theorem levelsWith_append (messages more : List MessageDescriptor) :
    levelsWith (messages ++ more) = max (levelsWith messages) (levelsWith more) := by
  induction messages with
  | nil => simp [levelsWith]
  | cons message rest ih => rw [List.cons_append, levelsWith, levelsWith, ih, Nat.max_assoc]

/-- A message that can be put into a descriptor. -/
def MessageDescriptor.requireLevels (message : MessageDescriptor) : Except Failure Unit :=
  if message.levels ≤ Wire.maxDepth then .ok () else .error (.fault .tooManyLevels)

/-- A file that can be put into a request. -/
def FileDescriptor.requireLevels (file : FileDescriptor) : Except Fault Unit :=
  if levelsWith file.messages ≤ Wire.maxDepth then .ok () else .error .tooManyLevels

end RpcClients.Schema
