/-! # The wire format

Messages are sequences of fields. Each has a number and a payload whose form its tag gives. -/

namespace RpcClients.Wire

abbrev Bytes := List UInt8

inductive Payload where
  | varint (value : Nat)
  | bytes (data : Bytes)
  /-- Eight bytes, four bytes or a group. Nothing here is read from one. -/
  | skipped
deriving DecidableEq, Repr

structure WireField where
  number : Nat
  payload : Payload
deriving DecidableEq, Repr

/-- How many numbers of 31 bits there are. -/
def word31 : Nat := 0x80000000

/-- How many numbers of 32 bits there are. -/
def word32 : Nat := 0x100000000

/-- How many numbers of 64 bits there are. -/
def word64 : Nat := 0x10000000000000000

/-! ## Reading -/

/-- A number in groups of seven bits, the lowest first, and the bytes behind it. It has at most
`limit` bytes. -/
def readVarint : (limit : Nat) → Bytes → Option (Nat × Bytes)
  | 0, _ => none
  | _, [] => none
  | limit + 1, byte :: rest =>
    if byte.toNat < 128 then some (byte.toNat, rest)
    else (readVarint limit rest).map fun (high, rest) => (byte.toNat - 128 + 128 * high, rest)

/-- Field number and form of a field. A tag has 32 bits. -/
def readTag (data : Bytes) : Option (Nat × Nat × Bytes) := do
  let (tag, rest) ← readVarint 5 data
  if tag < word32 then some (tag / 8, tag % 8, rest) else none

/-- The size of the data of a field. It has 31 bits. -/
def readSize (data : Bytes) : Option (Nat × Bytes) := do
  let (size, rest) ← readVarint 5 data
  if size < word31 then some (size, rest) else none

/-- The bytes of a given number, and those behind them. -/
def readBytes (count : Nat) (data : Bytes) : Option (Bytes × Bytes) :=
  if count ≤ data.length then some (data.take count, data.drop count) else none

/-- How deep messages and groups may be nested. -/
def maxDepth : Nat := 100

/-- The fields up to the end of the data, or up to the end of the group with the given number, and the
bytes behind them. The number zero is met in groups only, which are passed over. -/
def readFieldsIn (fuel : Nat) (depth : Nat) (group : Option Nat) (data : Bytes) :
    Option (List WireField × Bytes) :=
  match fuel with
  | 0 => none
  | fuel + 1 =>
    if data.isEmpty then if group.isNone then some ([], []) else none
    else do
      let (number, form, rest) ← readTag data
      if number = 0 ∧ group.isNone then none
      else if form = 4 then if group = some number then some ([], rest) else none
      else
        let (payload, rest) ← match form with
          | 0 => (readVarint 10 rest).map fun (value, rest) => (.varint (value % word64), rest)
          | 1 => (readBytes 8 rest).map fun (_, rest) => (.skipped, rest)
          | 2 => do
            let (size, rest) ← readSize rest
            (readBytes size rest).map fun (data, rest) => (.bytes data, rest)
          | 3 =>
            if depth = 0 then none
            else (readFieldsIn fuel (depth - 1) (some number) rest).map fun (_, rest) => (.skipped, rest)
          | 5 => (readBytes 4 rest).map fun (_, rest) => (.skipped, rest)
          | _ => none
        let (fields, rest) ← readFieldsIn fuel depth group rest
        return (⟨number, payload⟩ :: fields, rest)

/-- The fields of a message that may hold `depth` levels of groups. -/
def readFields (depth : Nat) (data : Bytes) : Option (List WireField) :=
  (readFieldsIn (data.length + 1) depth none data).map (·.1)

/-- Varints that follow each other up to the end of the data. -/
def readPacked : (fuel : Nat) → Bytes → Option (List Nat)
  | _, [] => some []
  | 0, _ => none
  | fuel + 1, data => do
    let (value, rest) ← readVarint 10 data
    return value % word64 :: (← readPacked fuel rest)

/-! ## Fields of a message -/

/-- The data of all fields with a number. -/
def allData (fields : List WireField) (number : Nat) : List Bytes :=
  fields.filterMap fun field =>
    match field.payload with
    | .bytes data => if field.number = number then some data else none
    | _ => none

/-- The data of the last field with a number. -/
def lastData (fields : List WireField) (number : Nat) : Option Bytes :=
  (allData fields number).getLast?

/-- The data of a message that is given in parts. -/
def mergedData (fields : List WireField) (number : Nat) : Bytes := (allData fields number).flatten

/-- The numbers in all varints with a field number. -/
def allVarints (fields : List WireField) (number : Nat) : List Nat :=
  fields.filterMap fun field =>
    match field.payload with
    | .varint value => if field.number = number then some value else none
    | _ => none

/-- The number in the last varint with a field number. -/
def lastVarint (fields : List WireField) (number : Nat) : Option Nat :=
  (allVarints fields number).getLast?

/-- The low 32 bits with their sign. -/
def int32 (value : Nat) : Int := Int.bmod value word32

/-- The numbers of a repeated field, packed or not. -/
def int32s (fields : List WireField) (number : Nat) : List Int :=
  fields.flatMap fun field =>
    if field.number ≠ number then []
    else
      match field.payload with
      | .varint value => [int32 value]
      | .bytes data => ((readPacked data.length data).getD []).map int32
      | .skipped => []

/-! ## Writing -/

/-- A number of at most `limit` groups of seven bits. -/
def varint : (limit : Nat) → Nat → Bytes
  | 0, _ => []
  | limit + 1, value =>
    if value < 128 then [value.toUInt8] else (value % 128 + 128).toUInt8 :: varint limit (value / 128)

def varintField (number value : Nat) : Bytes := varint 10 (number * 8) ++ varint 10 value

def dataField (number : Nat) (data : Bytes) : Bytes :=
  varint 10 (number * 8 + 2) ++ varint 10 data.length ++ data

def textField (number : Nat) (text : String) : Bytes := dataField number text.toUTF8.toList

end RpcClients.Wire
