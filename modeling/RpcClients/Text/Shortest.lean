/-! # The shortest decimal text of a binary fraction

A decimal is rounded to a binary fraction of 53 bits, and that is written with the fewest digits that
are read back to it, the nearest such digits if there is a choice, and of two equally near ones those
that end in an even digit. -/

namespace RpcClients.Text.Shortest

/-- `numerator / denominator` to the nearest whole number, a half to the even one. -/
def roundDiv (numerator denominator : Nat) : Nat :=
  let floor := numerator / denominator
  let rest := numerator % denominator
  if 2 * rest < denominator ∨ (2 * rest = denominator ∧ floor % 2 = 0) then floor else floor + 1

/-- A positive rational `numerator / denominator` as a whole number over a power of two:
`(num · 2^max(-q,0)) / (den · 2^max(q,0))` is the rational divided by `2^q`. -/
def scaled (numerator denominator : Nat) (q : Int) : Nat × Nat :=
  (numerator * Nat.pow 2 (-q).toNat, denominator * Nat.pow 2 q.toNat)

/-- The binary fraction `significand · 2^exponent`. -/
structure Binary where
  significand : Nat
  exponent : Int

/-- The smallest significand of full length. -/
def hiddenBit : Nat := 0x10000000000000

/-- The binary fraction nearest to a positive rational, `none` above the largest one. A significand
that is rounded up past its length becomes the smallest one of the next exponent. -/
def nearest (numerator denominator : Nat) : Option Binary :=
  let guess : Int := (Nat.log2 numerator : Int) - Nat.log2 denominator - 53
  let (n, d) := scaled numerator denominator guess
  let q := max (if n / d < hiddenBit * 2 then guess else guess + 1) (-1074)
  let (n, d) := scaled numerator denominator q
  let s := roundDiv n d
  let b : Binary := if s = hiddenBit * 2 then ⟨hiddenBit, q + 1⟩ else ⟨s, q⟩
  if b.exponent > 971 then none else some b

/-- The digits of the decimal `digits · 10^power`. -/
structure Digits where
  digits : Nat
  power : Int

/-- The whole number `n` times `10^power`, as a fraction. -/
def tenth (n : Nat) (power : Int) : Nat × Nat :=
  (n * Nat.pow 10 power.toNat, Nat.pow 10 (-power).toNat)

/-- The binary fraction in quarters of its last place: everything that is read back to `b` lies
between the two bounds given, in units of `2^(exponent - 2)`. -/
def bounds (b : Binary) : Nat × Nat :=
  let low := if b.significand = hiddenBit ∧ b.exponent > -1074 then 4 * b.significand - 1
    else 4 * b.significand - 2
  (low, 4 * b.significand + 2)

/-- Whether `digits · 10^power` is read back to `b`. -/
def readsBack (b : Binary) (digits : Nat) (power : Int) : Bool :=
  let (low, high) := bounds b
  let (n, d) := tenth digits power
  let unit := b.exponent - 2
  let (n, d) := scaled n d unit
  if b.significand % 2 = 0 then low * d ≤ n && n ≤ high * d else low * d < n && n < high * d

/-- The decimal with steps of `10^power` next to `b` that is read back to it, the nearer of two. Half
way between them the even digit wins. -/
def atPower (b : Binary) (power : Int) : Option Digits :=
  let (n, d) := scaled (b.significand * (tenth 1 power).2) (tenth 1 power).1 (-b.exponent)
  let floor := n / d
  let below := readsBack b floor power && floor != 0
  let above := readsBack b (floor + 1) power
  if below && above then
    some ⟨roundDiv n d, power⟩
  else if below then some ⟨floor, power⟩
  else if above then some ⟨floor + 1, power⟩
  else none

/-- The first power among `power`, `power - 1`, … that has a decimal next to `b`. -/
def search (b : Binary) : (fuel : Nat) → (power : Int) → Digits
  | 0, power => ⟨b.significand, power⟩
  | fuel + 1, power =>
    match atPower b power with
    | some digits => digits
    | none => search b fuel (power - 1)

/-- Decimal digits without the zeros at their end, which go into the power. -/
def dropZeros : (fuel : Nat) → Digits → Digits
  | 0, d => d
  | fuel + 1, d =>
    if d.digits % 10 = 0 ∧ d.digits ≠ 0 then dropZeros fuel ⟨d.digits / 10, d.power + 1⟩ else d

/-- The shortest decimal that is read back to a positive `b`. -/
def shortest (b : Binary) : Digits :=
  let magnitude : Int := ((Nat.log2 b.significand : Int) + b.exponent) * 30103 / 100000
  dropZeros 20 (search b 25 (magnitude + 2))

/-- Digits and power as text: positional from `0.0001` up to seventeen places, else with an
exponent of at least two digits. -/
def text (d : Digits) : String :=
  let digits := Nat.toDigits 10 d.digits
  let point : Int := digits.length + d.power
  let zeros (n : Nat) : List Char := List.replicate n '0'
  if -4 < point ∧ point ≤ 16 then
    if point ≤ 0 then String.ofList ('0' :: '.' :: (zeros (-point).toNat ++ digits))
    else if d.power ≥ 0 then String.ofList (digits ++ zeros d.power.toNat ++ ['.', '0'])
    else String.ofList (digits.take point.toNat ++ '.' :: digits.drop point.toNat)
  else
    let e := point - 1
    let shown := Nat.toDigits 10 e.natAbs
    let fraction := if digits.length = 1 then [] else '.' :: digits.drop 1
    String.ofList (digits.take 1 ++ fraction ++ 'e' :: (if e < 0 then '-' else '+') ::
      (zeros (2 - shown.length) ++ shown))

/-- The text of the decimal `mantissa · 10^exponent` after it went through a binary fraction. -/
def ofDecimal (negative : Bool) (mantissa : Nat) (exponent : Int) : String :=
  let size : Int := (Nat.toDigits 10 mantissa).length + exponent
  let magnitude :=
    if mantissa = 0 ∨ size < -330 then "0.0"
    else if size > 310 then "inf"
    else
      let (n, d) := tenth mantissa exponent
      match nearest n d with
      | none => "inf"
      | some ⟨0, _⟩ => "0.0"
      | some b => text (shortest b)
  if negative then "-" ++ magnitude else magnitude

end RpcClients.Text.Shortest
