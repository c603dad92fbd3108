import Mathlib.Init

/-!
# Server/Json — the standard library's JSON, over bytes

Texts are the bytes of their UTF-8 encoding.  A value is one the server may hand to
`JSON.stringify`; what comes back from `JSON.parse` is the same value for those JSON has, but `NaN`
and the infinities come back as `null`, `-0` as `0`, and an array of bytes as an object.

Left out are lone surrogates, which are not in UTF-8, and how `JSON.parse` rounds a number that is
not written as the language writes it.
-/

namespace QuorumProof.Json

/-- A text, by its bytes in UTF-8. -/
abbrev Text := List UInt8

/-- The values of the language; a finite number other than `-0` is given by its text. -/
inductive Value
  | undefined
  | null
  | bool (b : Bool)
  | nonFinite
  | negativeZero
  | number (text : Text)
  | string (text : Text)
  | bytes (bs : List UInt8)
  | array (items : List Value)
  | object (members : List (Text × Value))

/-! ## Writing -/

/-- The characters with a letter for their escape: `\b`, `\t`, `\n`, `\f`, `\r`. -/
def letters : List (UInt8 × UInt8) := [(8, 98), (9, 116), (10, 110), (12, 102), (13, 114)]

def hexDigit (b : UInt8) : UInt8 := if b < 10 then 48 + b else 87 + b

/-- A byte in a string: quotes, backslashes and control bytes are escaped. -/
def escape (b : UInt8) : Text :=
  if b = 34 ∨ b = 92 then [92, b]
  else if 32 ≤ b then [b]
  else
    match letters.lookup b with
    | some letter => [92, letter]
    | none => [92, 117, 48, 48, hexDigit (b / 16), hexDigit (b % 16)]

def quote (text : Text) : Text := 34 :: (text.flatMap escape ++ [34])

def decimal (n : Nat) : Text := (Nat.toDigits 10 n).map (·.toNat.toUInt8)

/-- The parts of an array or an object, between commas. -/
def enclose (opening closing : UInt8) (parts : List Text) : Text :=
  opening :: ([44].intercalate parts ++ [closing])

mutual

/-- `JSON.stringify`; `undefined` is written as it is in an array. -/
def stringify : Value → Text
  | .undefined | .null | .nonFinite => [110, 117, 108, 108]
  | .bool true => [116, 114, 117, 101]
  | .bool false => [102, 97, 108, 115, 101]
  | .negativeZero => [48]
  | .number text => text
  | .string text => quote text
  | .bytes bs => enclose 123 125 (bs.mapIdx fun i b => quote (decimal i) ++ 58 :: decimal b.toNat)
  | .array items => enclose 91 93 (stringifyItems items)
  | .object members => enclose 123 125 (stringifyMembers members)

def stringifyItems : List Value → List Text
  | [] => []
  | item :: items => stringify item :: stringifyItems items

/-- The members of an object; those that are `undefined` are left out. -/
def stringifyMembers : List (Text × Value) → List Text
  | [] => []
  | (_, .undefined) :: members => stringifyMembers members
  | (key, value) :: members => (quote key ++ 58 :: stringify value) :: stringifyMembers members

end

/-! ## Reading -/

def skipSpace (t : Text) : Text := t.dropWhile (· ∈ [9, 10, 13, 32])

def isDigit (b : UInt8) : Bool := 48 ≤ b && b ≤ 57

def hexValue (b : UInt8) : Option Nat :=
  if isDigit b then some (b - 48).toNat
  else if 97 ≤ b ∧ b ≤ 102 then some (b - 87).toNat
  else if 65 ≤ b ∧ b ≤ 70 then some (b - 55).toNat
  else none

/-- A string behind its opening quote, and what follows it. -/
def parseString : Text → Option (Text × Text)
  | [] => none
  | 34 :: t => some ([], t)
  | 92 :: 117 :: a :: b :: c :: d :: t => do
    let code := (← [a, b, c, d].mapM hexValue).foldl (16 * · + ·) 0
    return (← parseString t).map (String.utf8EncodeChar (Char.ofNat code) ++ ·) id
  | 92 :: e :: t => do
    let b ← if e ∈ [34, 47, 92] then some e else (letters.find? (·.2 = e)).map (·.1)
    return (← parseString t).map (b :: ·) id
  | b :: t => do
    guard (32 ≤ b)
    return (← parseString t).map (b :: ·) id

/-- Where a byte leads in the grammar of numbers: at the start, behind the sign, behind a zero or
other digits, behind the point and digits after it, behind `e`, its sign and digits after it. -/
def numberStep : Nat → UInt8 → Option Nat
  | 0, 45 => some 1
  | 0, 48 | 1, 48 => some 2
  | 2, 46 | 3, 46 => some 4
  | 2, 69 | 2, 101 | 3, 69 | 3, 101 | 5, 69 | 5, 101 => some 6
  | 6, 43 | 6, 45 => some 7
  | state, b =>
    if !isDigit b || state = 2 then none
    else some (if state < 4 then 3 else if state < 6 then 5 else 8)

/-- A number at the front of a text, and what follows it. -/
def parseNumber (state : Nat) : Text → Option (Text × Text)
  | [] => if state ∈ [2, 3, 5, 8] then some ([], []) else none
  | b :: t =>
    match numberStep state b with
    | some state => (parseNumber state t).map (·.map (b :: ·) id)
    | none => if state ∈ [2, 3, 5, 8] then some ([], b :: t) else none

mutual

/-- A value at the front of a text, and what follows it. -/
def parseValue : Nat → Text → Option (Value × Text)
  | 0, _ => none
  | fuel + 1, t =>
    match skipSpace t with
    | 34 :: t => (parseString t).map (·.map .string id)
    | 91 :: t =>
      match skipSpace t with
      | 93 :: t => some (.array [], t)
      | t => (parseItems fuel t).map (·.map .array id)
    | 102 :: 97 :: 108 :: 115 :: 101 :: t => some (.bool false, t)
    | 110 :: 117 :: 108 :: 108 :: t => some (.null, t)
    | 116 :: 114 :: 117 :: 101 :: t => some (.bool true, t)
    | 123 :: t =>
      match skipSpace t with
      | 125 :: t => some (.object [], t)
      | t => (parseMembers fuel t).map (·.map .object id)
    | t => (parseNumber 0 t).map
        (·.map (fun text => if text = [45, 48] then .negativeZero else .number text) id)

def parseItems : Nat → Text → Option (List Value × Text)
  | 0, _ => none
  | fuel + 1, t => do
    let (item, t) ← parseValue fuel t
    match skipSpace t with
    | 44 :: t => return (← parseItems fuel t).map (item :: ·) id
    | 93 :: t => return ([item], t)
    | _ => none

def parseMembers : Nat → Text → Option (List (Text × Value) × Text)
  | 0, _ => none
  | fuel + 1, t =>
    match skipSpace t with
    | 34 :: t => do
      let (key, t) ← parseString t
      match skipSpace t with
      | 58 :: t => do
        let (value, t) ← parseValue fuel t
        match skipSpace t with
        | 44 :: t => return (← parseMembers fuel t).map ((key, value) :: ·) id
        | 125 :: t => return ([(key, value)], t)
        | _ => none
      | _ => none
    | _ => none

end

/-- `JSON.parse`.  A text has a byte for every second call, so the fuel is enough. -/
def parse (t : Text) : Option Value := do
  let (value, t) ← parseValue (2 * t.length + 2) t
  guard (skipSpace t = [])
  return value

/-- A property of an object; a key that is there twice has its last value. -/
def Value.property (name : Text) : Value → Value
  | .object members => (members.reverse.lookup name).getD .undefined
  | _ => .undefined

/-- Does a value count as true? -/
def Value.truthy : Value → Bool
  | .undefined | .null | .nonFinite | .negativeZero => false
  | .bool b => b
  | .number text => (text.takeWhile (· ∉ [69, 101])).any (49 ≤ ·)
  | .string text => !text.isEmpty
  | .bytes _ | .array _ | .object _ => true

end QuorumProof.Json
