import Mathlib.Init

/-!
# Server/Strings — the string functions of the runtime

What hashes, addresses, header names and timestamps go through.  Outside ASCII `toLowerCase` leaves
a character as it is here.
-/

namespace QuorumProof.Strings

def toLowerCase (text : String) : String := String.ofList (text.toList.map Char.toLower)

/-- White space and line terminators. -/
def isSpace (c : Char) : Bool :=
  c.toNat ∈ [9, 10, 11, 12, 13, 32, 160, 5760, 8232, 8233, 8239, 8287, 12288, 65279] ||
    (8192 ≤ c.toNat && c.toNat ≤ 8202)

/-- The digits that some characters start with, if they do. -/
def leadingNat (chars : List Char) : Option Nat :=
  match chars.takeWhile Char.isDigit with
  | [] => none
  | digits => some (digits.foldl (fun n c => 10 * n + (c.toNat - 48)) 0)

/-- `parseInt(text, 10)`, with nothing for `NaN`. -/
def parseInt (text : String) : Option Int :=
  match text.toList.dropWhile isSpace with
  | '-' :: rest => (leadingNat rest).map fun n => -(n : Int)
  | '+' :: rest => (leadingNat rest).map Int.ofNat
  | chars => (leadingNat chars).map Int.ofNat

def hexDigit (c : Char) : Option Nat :=
  if c.isDigit then some (c.toNat - 48)
  else if 'a' ≤ c.toLower ∧ c.toLower ≤ 'f' then some (c.toLower.toNat - 87)
  else none

/-- Pairs of digits, up to the first that is none. -/
def hexPairs : List Char → List UInt8
  | high :: low :: rest =>
    match hexDigit high, hexDigit low with
    | some h, some l => UInt8.ofNat (16 * h + l) :: hexPairs rest
    | _, _ => []
  | _ => []

/-- `Buffer.from(text, 'hex')`. -/
def hexBytes (text : String) : List UInt8 := hexPairs text.toList

/-- A number of milliseconds, in seconds, as `${ms / 1000}` writes it. -/
def seconds (ms : Nat) : String :=
  let decimals := (toString (1000 + ms % 1000)).toList.drop 1
  match (decimals.reverse.dropWhile (· = '0')).reverse with
  | [] => toString (ms / 1000)
  | decimals => toString (ms / 1000) ++ "." ++ String.ofList decimals

example : parseInt " 1000ms" = some 1000 ∧ hexBytes "5eC2e" = [94, 194] ∧
    seconds 1500 = "1.5" := by
  decide +kernel

end QuorumProof.Strings
