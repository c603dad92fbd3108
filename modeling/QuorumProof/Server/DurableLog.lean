import QuorumProof.Lib.Lines
import QuorumProof.Lib.Machine
import QuorumProof.Lib.OrderedMap
import QuorumProof.Server.Json

/-!
# Server/DurableLog — the append-only log under the server's stores

A `DurableLog` keeps a map in memory and a file of JSON lines beside it: every `set` and `delete`
appends a line, and when there are too many lines the file is rewritten from the map.  `shred`
overwrites the file with zeros before rewriting it.  A new instance replays the lines.

An operation is what it does to the memory, and the list of its writes to the file.  A crash keeps
what the finished writes have left, and of an unfinished one any part of its bytes from the start;
a file that is opened for rewriting is empty at once.

Source: `durableLog.ts`.
-/

namespace QuorumProof

open Json

/-- A line of the log: `{ key, value }`, or `{ key, deleted: true }`. -/
inductive LogLine
  | value (key : Text) (value : Value)
  | deleted (key : Text)

namespace LogLine

def key : LogLine → Text
  | .value key _ => key
  | .deleted key => key

/-- The object that is written; the names are `key`, `value` and `deleted`. -/
def toValue : LogLine → Value
  | .value key v => .object [([107, 101, 121], .string key), ([118, 97, 108, 117, 101], v)]
  | .deleted key =>
    .object [([107, 101, 121], .string key), ([100, 101, 108, 101, 116, 101, 100], .bool true)]

/-- What `load` takes from a line.  The log writes no key that is not a string, and none is read. -/
def ofValue (line : Value) : Option LogLine :=
  match line.property [107, 101, 121] with
  | .string key =>
    if (line.property [100, 101, 108, 101, 116, 101, 100]).truthy then some (.deleted key)
    else some (.value key (line.property [118, 97, 108, 117, 101]))
  | _ => none

end LogLine

/-- The byte of `'\n'`. -/
def newline : UInt8 := 10

/-- `!line.trim()`; the blanks beyond ASCII are refused by `JSON.parse` as well. -/
def blank (line : Text) : Bool := line.all fun b => b = 32 || 9 ≤ b && b ≤ 13

/-- The lines of the log. -/
def codec : Lines.Codec UInt8 LogLine where
  separator := newline
  encode record := stringify record.toValue
  decode line := if blank line then none else (parse line).bind LogLine.ofValue

structure DurableLogOptions where
  compactThreshold : Option Nat := none

/-- `DurableLog`, in memory. -/
structure DurableLog where
  data : OrderedMap Text Value
  lines : Nat

/-- A write that is synced: `open(.., 'a')` or `open(.., 'w')`, and the bytes. -/
inductive FileWrite
  | append (bytes : List UInt8)
  | rewrite (bytes : List UInt8)
  deriving DecidableEq, Repr

namespace FileWrite

/-- What a finished write leaves. -/
def finish (file : Text) : FileWrite → List UInt8
  | .append bytes => file ++ bytes
  | .rewrite bytes => bytes

/-- What is left of a write of which only the first bytes have been kept. -/
def cut (file : Text) (kept : Nat) : FileWrite → List UInt8
  | .append bytes => file ++ bytes.take kept
  | .rewrite bytes => bytes.take kept

end FileWrite

namespace DurableLog

variable (opts : DurableLogOptions) (log : DurableLog)

def get (key : Text) : Option Value := log.data.get key

/-- A line that is read when the log is loaded. -/
def replay : LogLine → DurableLog
  | .deleted key => { data := log.data.remove key, lines := log.lines + 1 }
  | .value key value => { data := log.data.set key value, lines := log.lines + 1 }

def load (file : Text) : DurableLog :=
  (file.splitOn newline).foldl (fun log line =>
    if blank line then log
    else
      match (parse line).bind LogLine.ofValue with
      | some record => log.replay record
      | none => log) { data := .empty, lines := 0 }

def compact : DurableLog × List FileWrite :=
  let lines := log.data.entries.map fun (key, value) => stringify (LogLine.value key value).toValue
  ({ log with lines := lines.length },
    [.rewrite (if lines = [] then [] else [newline].intercalate lines ++ [newline])])

def appendLine (record : LogLine) : DurableLog × List FileWrite :=
  let append := FileWrite.append (stringify record.toValue ++ [newline])
  let log := { log with lines := log.lines + 1 }
  let threshold := opts.compactThreshold.getD (max 200 (log.data.size * 4))
  if log.lines > threshold then
    let (log, writes) := log.compact
    (log, append :: writes)
  else (log, [append])

def set (key : Text) (value : Value) : DurableLog × List FileWrite :=
  appendLine opts { log with data := log.data.set key value } (.value key value)

def delete (key : Text) : DurableLog × List FileWrite :=
  appendLine opts { log with data := log.data.remove key } (.deleted key)

def shred (file : Text) (log : DurableLog) (key : Text) : DurableLog × List FileWrite :=
  let (log, writes) := compact { log with data := log.data.remove key }
  (log, .rewrite (List.replicate file.length 0) :: writes)

end DurableLog

/-! ## Runs with crashes -/

namespace DurableLog

/-- What is called on a log. -/
inductive Operation
  | set (key : Text) (value : Value)
  | delete (key : Text)
  | compact
  | shred (key : Text)

/-- The memory an operation leaves, and its writes. -/
def Operation.perform (opts : DurableLogOptions) (file : Text)
    (log : DurableLog) : Operation → DurableLog × List FileWrite
  | .set key value => log.set opts key value
  | .delete key => log.delete opts key
  | .compact => log.compact
  | .shred key => log.shred file key

inductive Event
  /-- An operation returns. -/
  | returned (op : Operation)
  /-- A crash during an operation, after some of its writes; `kept` counts the bytes of the next one
  that are kept, if it has been begun.  Then a new instance is constructed. -/
  | crashed (op : Operation) (finished : Nat) (kept : Option Nat)
  /-- A new instance is constructed. -/
  | restarted

/-- What is left of a list of writes by a crash. -/
def cutWrites (file : Text) (writes : List FileWrite) (finished : Nat) (kept : Option Nat) :
    List UInt8 :=
  let file := (writes.take finished).foldl FileWrite.finish file
  match writes[finished]?, kept with
  | some write, some kept => write.cut file kept
  | _, _ => file

/-- The file, and the instance on it. -/
structure State where
  file : List UInt8
  log : DurableLog

namespace State

variable (opts : DurableLogOptions)

/-- A new instance on a file. -/
def opened (file : Text) : State := { file := file, log := load file }

def next (s : State) : Event → State
  | .returned op =>
    let (log, writes) := op.perform opts s.file s.log
    { file := writes.foldl FileWrite.finish s.file, log := log }
  | .crashed op finished kept =>
    opened (cutWrites s.file (op.perform opts s.file s.log).2 finished kept)
  | .restarted => opened s.file

/-- What a list of events leaves, from an instance on a file. -/
def after (file : Text) (events : List (Event)) : State :=
  Machine.run (next opts) (opened file) events

end State

end DurableLog

end QuorumProof
