import Mathlib.Algebra.Group.Nat.Defs
import QuorumProof.Server.DurableLog

/-!
# Server/LogDurability — what a log remembers of the operations that returned

What is loaded from the file is what the instance has in memory, as long as JSON gives back what is
written and every line is appended to a file whose last line is ended.  Nothing ends the line that a
crash has torn, though: the next line is written behind it and is lost with it.  A crash in a
compaction or in a shredding loses what the truncated file does not hold yet.
-/

namespace QuorumProof.DurableLog

open Json

variable {opts : DurableLogOptions}

/-! ## Loading -/

/-- Loading replays the lines that can be read. -/
theorem load_eq_foldl (file : Text) :
    load file = (codec.read file).foldl replay { data := .empty, lines := 0 } := by
  rw [Lines.Codec.read, List.foldl_filterMap, load]
  congr 1
  funext log line
  simp only [codec]
  by_cases hblank : blank line
  · rw [if_pos hblank, if_pos hblank]
  · rw [if_neg hblank, if_neg hblank]
    cases (parse line).bind LogLine.ofValue <;> rfl

variable {file : Text}

/-- What follows an ended line is replayed after it. -/
theorem load_append (hended : codec.Ended file) (bytes : Text) :
    load (file ++ bytes) = (codec.read bytes).foldl replay (load file) := by
  rw [load_eq_foldl, Lines.Codec.read_append rfl hended, List.foldl_append, ← load_eq_foldl]

/-- A line of another key does not matter for a key. -/
theorem get_replay_of_ne {key : Text} {r : LogLine} (h : r.key ≠ key) (log : DurableLog) :
    (log.replay r).get key = log.get key := by
  cases r with
  | value key' value => exact (log.data.get_set key' key value).trans (if_neg (Ne.symm h))
  | deleted key' => exact (log.data.get_remove key' key).trans (if_neg (Ne.symm h))

theorem get_foldl_replay {key : Text} {records : List LogLine} (h : ∀ r ∈ records, r.key ≠ key)
    (log : DurableLog) : (records.foldl replay log).get key = log.get key := by
  induction records generalizing log with
  | nil => rfl
  | cons r records ih =>
    obtain ⟨hr, h⟩ := List.forall_mem_cons.mp h
    rw [List.foldl_cons, ih h, get_replay_of_ne hr]

/-! ## Compacting -/

/-- The lines of a map. -/
def records (data : OrderedMap Text Value) : List LogLine :=
  data.entries.map fun e => .value e.1 e.2

/-- The file a map is compacted to. -/
def compacted (data : OrderedMap Text Value) : Text := (records data).flatMap codec.line

/-- JSON gives a line back. -/
def Kept (record : LogLine) : Prop := codec.read (codec.line record) = [record]

/-- A line that JSON gives back is replayed. -/
theorem Kept.load_append_line {record : LogLine} (h : Kept record) (hended : codec.Ended file) :
    load (file ++ codec.line record) = (load file).replay record := by
  rw [load_append hended, h, List.foldl_cons, List.foldl_nil]

theorem intercalate_newline (lines : List (List UInt8)) :
    (if lines = [] then [] else [newline].intercalate lines ++ [newline]) =
      lines.flatMap (· ++ [newline]) := by
  induction lines with
  | nil => rfl
  | cons line lines ih =>
    cases lines with
    | nil => simp [List.intercalate]
    | cons line' lines =>
      rw [if_neg (by simp), List.intercalate_cons_cons, List.flatMap_cons, ← ih, if_neg (by simp)]
      simp

theorem compact_eq (log : DurableLog) : log.compact =
    ({ log with lines := log.data.entries.length }, [.rewrite (compacted log.data)]) := by
  simp only [compact, intercalate_newline, compacted, records, List.flatMap_map, List.length_map]
  rfl

theorem data_foldl_replay_value (entries : List (Text × Value)) (log : DurableLog) :
    ((entries.map fun e => LogLine.value e.1 e.2).foldl replay log).data =
      entries.foldl (fun m e => m.set e.1 e.2) log.data := by
  induction entries generalizing log with
  | nil => rfl
  | cons e entries ih => exact ih _

/-- **A compacted file holds the map it was written from.** -/
theorem get_load_compacted {data : OrderedMap Text Value} (hkept : ∀ r ∈ records data, Kept r)
    (key : Text) : (load (compacted data)).get key = data.get key := by
  rw [load_eq_foldl, compacted, Lines.Codec.read_flatMap_line rfl hkept, get, records,
    data_foldl_replay_value]
  exact data.get_foldl_entries key

/-! ## Operations -/

namespace Operation

/-- The line an operation appends. -/
def line : Operation → Option LogLine
  | .set key value => some (.value key value)
  | .delete key => some (.deleted key)
  | .compact => none
  | .shred _ => none

/-- What an operation leaves under a key, if it is about that key. -/
def outcome (key : Text) : Operation → Option (Option Value)
  | .set key' value => if key = key' then some (some value) else none
  | .delete key' => if key = key' then some none else none
  | .compact => none
  | .shred key' => if key = key' then some none else none

/-- What an operation does to the map. -/
def update (data : OrderedMap Text Value) : Operation → OrderedMap Text Value
  | .set key value => data.set key value
  | .delete key => data.remove key
  | .compact => data
  | .shred key => data.remove key

theorem get_update (op : Operation) (data : OrderedMap Text Value) (key : Text) :
    (op.update data).get key = (op.outcome key).getD (data.get key) := by
  cases op with
  | compact => rfl
  | set | delete | shred =>
    simp only [update, OrderedMap.get_set, OrderedMap.get_remove, outcome]
    split <;> rfl

theorem appendLine_data (log : DurableLog) (record : LogLine) :
    (log.appendLine opts record).1.data = log.data := by
  rw [appendLine]
  split
  · simp only [compact_eq]
  · rfl

theorem perform_data (op : Operation) (file : Text) (log : DurableLog) :
    (op.perform opts file log).1.data = op.update log.data := by
  cases op with
  | set | delete => exact appendLine_data _ _
  | compact | shred => rfl

variable {op : Operation} {record : LogLine}

/-- An operation with a line appends it, and may compact the file then. -/
theorem perform_writes_of_line (opts : DurableLogOptions) (hline : op.line = some record)
    (file : Text) (log : DurableLog) :
    (op.perform opts file log).2 = [.append (codec.line record)] ∨
    (op.perform opts file log).2 =
      [.append (codec.line record), .rewrite (compacted (op.update log.data))] := by
  cases op with
  | set | delete =>
    obtain rfl := Option.some.inj hline
    simp only [perform, DurableLog.set, DurableLog.delete, appendLine, compact_eq]
    split
    · exact .inr rfl
    · exact .inl rfl
  | compact | shred => cases hline

/-- An operation without a line compacts the file in the end. -/
theorem perform_writes_of_no_line (opts : DurableLogOptions) (hline : op.line = none)
    (file : Text) (log : DurableLog) : ∃ before, (op.perform opts file log).2 =
      before ++ [.rewrite (compacted (op.update log.data))] := by
  cases op with
  | set | delete => cases hline
  | compact => exact ⟨[], by rw [perform, compact_eq]; rfl⟩
  | shred key => exact ⟨[_], by rw [perform, DurableLog.shred, compact_eq]; rfl⟩

theorem outcome_of_line_of_ne (hline : op.line = some record) {key : Text}
    (hkey : record.key ≠ key) : op.outcome key = none := by
  cases op with
  | set | delete =>
    obtain rfl := Option.some.inj hline
    exact if_neg (Ne.symm hkey)
  | compact | shred => cases hline

theorem data_replay_of_line (hline : op.line = some record) (log : DurableLog) :
    (log.replay record).data = op.update log.data := by
  cases op with
  | set | delete => obtain rfl := Option.some.inj hline; rfl
  | compact | shred => cases hline

end Operation

theorem cutWrites_none (file : Text) (writes : List FileWrite) (finished : Nat) :
    cutWrites file writes finished none = (writes.take finished).foldl FileWrite.finish file := by
  dsimp only [cutWrites]
  cases writes[finished]? <;> rfl

/-! ## Runs -/

/-- **The outcome of the last operation on a key that has returned**, if there is one. -/
def lastReturned (key : Text) (events : List Event) : Option (Option Value) :=
  events.foldl (fun last e =>
    match e with
    | .returned op => (op.outcome key).or last
    | _ => last) none

/-- **What has returned is there after a restart.** -/
def Durable (opts : DurableLogOptions) (file : Text) (events : List Event) (key : Text) : Prop :=
  ∀ outcome, lastReturned key events = some outcome →
    (State.after opts file (events ++ [.restarted])).log.get key = outcome

namespace State

/-- **What a key needs to survive an event**: a line is appended to a file whose last line is ended;
no crash falls between the truncation of the file by a compaction or a shredding and its end; and
what a crash keeps of the line of an operation that has not returned is not read as one of the
key. -/
def Survives (key : Text) (s : State) : Event → Prop
  | .returned op => op.line.isSome → codec.Ended s.file
  | .crashed op finished kept =>
    match op.line with
    | some record => codec.Ended s.file ∧
        if finished = 0 then
          ∀ r ∈ codec.read ((codec.line record).take (kept.getD 0)), r.key ≠ key
        else kept = none ∧ record.key ≠ key
    | none => finished = 0 ∧ kept = none
  | .restarted => True

instance (key : Text) (s : State) (e : Event) : Decidable (Survives key s e) := by
  unfold Survives
  split
  case h_2 => split <;> infer_instance
  all_goals infer_instance

/-- JSON gives back every line an operation may write: its own, and those of a compaction. -/
def Keeps (s : State) : Event → Prop
  | .returned op | .crashed op _ _ =>
    ∀ record ∈ op.line.toList ++ records (op.update s.log.data), Kept record
  | .restarted => True

/-- The file is what is in memory, and that is what has returned. -/
structure Reflects (key : Text) (events : List Event) (s : State) : Prop where
  loaded : ∀ k, (load s.file).get k = s.log.get k
  returned : ∀ outcome, lastReturned key events = some outcome → s.log.get key = outcome

variable {key : Text} {events : List Event} {s : State}

/-- An event that leaves a file from which the key is loaded as before. -/
theorem Reflects.reopen (h : Reflects key events s) {e : Event}
    (he : lastReturned key (events ++ [e]) = lastReturned key events)
    (hfile : (load file).get key = (load s.file).get key) :
    Reflects key (events ++ [e]) (opened file) where
  loaded _ := rfl
  returned outcome houtcome := by
    rw [he] at houtcome
    exact hfile.trans ((h.loaded key).trans (h.returned outcome houtcome))

theorem lastReturned_append (e : Event) :
    lastReturned key (events ++ [e]) =
      match e with
      | .returned op => (op.outcome key).or (lastReturned key events)
      | _ => lastReturned key events := by
  rw [lastReturned, List.foldl_append]
  cases e <;> rfl

variable {op : Operation}

section

variable (h : Reflects key events s) (hkept : Keeps s (.returned op))

include h hkept

/-- What the writes of an operation leave, when it returns. -/
theorem Reflects.get_load (hended : op.line.isSome → codec.Ended s.file) (k : Text) :
    (load ((op.perform opts s.file s.log).2.foldl FileWrite.finish s.file)).get k =
      (op.update s.log.data).get k := by
  obtain ⟨hline_kept, hkept⟩ := List.forall_mem_append.mp hkept
  cases hline : op.line with
  | none =>
    obtain ⟨before, hwrites⟩ := Operation.perform_writes_of_no_line opts hline s.file s.log
    rw [hwrites, List.foldl_append]
    exact get_load_compacted hkept k
  | some record =>
    rcases Operation.perform_writes_of_line opts hline s.file s.log with hwrites | hwrites
    · have hrecord : Kept record := hline_kept _ (by simp [hline])
      rw [hwrites]
      change (load (s.file ++ codec.line record)).get k = _
      rw [hrecord.load_append_line (hended (by simp [hline])), get,
        Operation.data_replay_of_line hline, Operation.get_update, Operation.get_update]
      exact congrArg _ (h.loaded k)
    · rw [hwrites]
      exact get_load_compacted hkept k

/-- What the first writes of an operation leave of another key. -/
theorem Reflects.get_load_take {record : LogLine} (hline : op.line = some record)
    (hended : codec.Ended s.file) (hne : record.key ≠ key) {finished : Nat} (hpos : 0 < finished) :
    (load (((op.perform opts s.file s.log).2.take finished).foldl
      FileWrite.finish s.file)).get key = (load s.file).get key := by
  by_cases hall : (op.perform opts s.file s.log).2.length ≤ finished
  · rw [List.take_of_length_le hall, h.get_load hkept (fun _ => hended),
      Operation.get_update, Operation.outcome_of_line_of_ne hline hne]
    exact (h.loaded key).symm
  · rcases Operation.perform_writes_of_line opts hline s.file s.log with hwrites | hwrites
    · rw [hwrites, List.length_singleton] at hall
      omega
    · rw [hwrites, List.length_cons, List.length_singleton] at hall
      obtain rfl : finished = 1 := by omega
      have hrecord : Kept record := hkept _ (by simp [hline])
      rw [hwrites]
      change (load (s.file ++ codec.line record)).get key = _
      rw [hrecord.load_append_line hended, get_replay_of_ne hne]

theorem Reflects.step_returned
    (hsurvives : Survives key s (.returned op)) :
    Reflects key (events ++ [.returned op]) (next opts s (.returned op)) where
  loaded k := by
    refine (h.get_load hkept hsurvives k).trans ?_
    rw [← Operation.perform_data]
    rfl
  returned outcome houtcome := by
    replace houtcome : (op.outcome key).or (lastReturned key events) = some outcome :=
      (lastReturned_append _).symm.trans houtcome
    change (op.perform opts s.file s.log).1.data.get key = outcome
    rw [Operation.perform_data, Operation.get_update]
    cases hop : op.outcome key with
    | none =>
      rw [hop, Option.none_or] at houtcome
      exact h.returned outcome houtcome
    | some outcome' =>
      rw [hop, Option.some_or] at houtcome
      exact Option.some.inj houtcome

theorem Reflects.step_crashed {finished : Nat} {kept : Option Nat}
    (hsurvives : Survives key s (.crashed op finished kept)) :
    Reflects key (events ++ [.crashed op finished kept])
      (next opts s (.crashed op finished kept)) := by
  refine h.reopen (lastReturned_append _) ?_
  rw [Survives] at hsurvives
  cases hline : op.line with
  | none =>
    simp only [hline] at hsurvives
    obtain ⟨rfl, rfl⟩ := hsurvives
    rw [cutWrites_none]
    rfl
  | some record =>
    simp only [hline] at hsurvives
    obtain ⟨hended, hunread⟩ := hsurvives
    rcases Nat.eq_zero_or_pos finished with rfl | hpos
    · -- The crash falls into the append.
      rw [if_pos rfl] at hunread
      cases kept with
      | none =>
        rw [cutWrites_none]
        rfl
      | some n =>
        have hfirst : (op.perform opts s.file s.log).2[0]? =
            some (.append (codec.line record)) := by
          rcases Operation.perform_writes_of_line opts hline s.file s.log with hwrites | hwrites <;>
            simp [hwrites]
        have hload := load_append hended ((codec.line record).take n)
        simpa [cutWrites, hfirst, FileWrite.cut, hload] using get_foldl_replay hunread _
    · -- The line has been appended, and maybe the file has been compacted; it is of another key.
      rw [if_neg hpos.ne'] at hunread
      obtain ⟨rfl, hne⟩ := hunread
      rw [cutWrites_none, h.get_load_take hkept hline hended hne hpos]

end

theorem Reflects.step (h : Reflects key events s) {e : Event} (hsurvives : Survives key s e)
    (hkept : Keeps s e) : Reflects key (events ++ [e]) (next opts s e) := by
  cases e with
  | returned op => exact h.step_returned hkept hsurvives
  | crashed op finished kept => exact h.step_crashed hkept hsurvives
  | restarted => exact h.reopen (lastReturned_append _) rfl

/-- **What has returned is there after a restart**, whatever the crashes, unless a line is appended
to a torn one, a crash falls into a compaction or a shredding, or one lets a line through that has
not returned. -/
theorem durable (opts : DurableLogOptions) (file : Text) (events : List Event) (key : Text)
    (hsurvives : Machine.Along (next opts) (Survives key) (opened file) events)
    (hkept : Machine.Along (next opts) Keeps (opened file) events) :
    Durable opts file events key := by
  have hreflects : Reflects key events (after opts file events) :=
    (hsurvives.and hkept).history (I := Reflects key) ⟨fun _ => rfl, nofun⟩
      fun _ _ h he => h.step he.1 he.2
  intro outcome houtcome
  rw [after, Machine.run_append]
  exact (hreflects.loaded key).trans (hreflects.returned outcome houtcome)

namespace Sample

/-- The keys `a` and `b`. -/
def a : Text := [97]

def b : Text := [98]

/-- A crash tears the line of a `set`, and the line of the next one is lost behind it. -/
def torn : List Event :=
  [.crashed (.set a (.bool false)) 0 (some 1), .returned (.set a (.bool true))]

/-- A crash empties the file that a compaction has opened. -/
def compacting : List Event :=
  [.returned (.set a (.bool true)), .crashed (.set b (.bool true)) 1 (some 0)]

/-- A crash empties the file that the shredding of another key has opened. -/
def shredding : List Event :=
  [.returned (.set a (.bool true)), .crashed (.shred b) 0 (some 0)]

/-- The line of a `delete` that does not return is written whole. -/
def unreturned : List Event :=
  [.returned (.set a (.bool true)), .crashed (.delete a) 1 none]

/-- An array of bytes comes back as an object. -/
def changed : List Event := [.returned (.set a (.bytes [1, 2]))]

/-- A crash tears a line, and the file is compacted before the next one is appended. -/
def repaired : List Event :=
  [.returned (.set a (.array [.number [49], .string [10]])),
   .crashed (.set b (.bool true)) 0 (some 3), .returned .compact,
   .returned (.set b (.bool false)), .crashed (.delete a) 0 (some 2)]

end Sample

open State.Sample in
theorem durable_repaired :
    Durable {} [] repaired a ∧ Durable {} [] repaired b ∧
      (after {} [] (repaired ++ [.restarted])).log.get a =
        some (.array [.number [49], .string [10]]) := by
  have hkept : Machine.Along (next {}) Keeps (opened []) repaired := by
    refine ⟨?_, ?_, ?_, ?_, ?_, trivial⟩ <;> refine List.forall_mem_cons.mpr ⟨rfl, ?_⟩
    · exact List.forall_mem_singleton.mpr rfl
    · exact List.forall_mem_cons.mpr ⟨rfl, List.forall_mem_singleton.mpr rfl⟩
    · exact List.forall_mem_nil _
    · exact List.forall_mem_cons.mpr ⟨rfl, List.forall_mem_singleton.mpr rfl⟩
    · exact List.forall_mem_singleton.mpr rfl
  exact ⟨durable {} [] repaired a (by decide +kernel) hkept,
    durable {} [] repaired b (by decide +kernel) hkept, rfl⟩

open State.Sample in
/-- **What has returned may be lost**, in each of the five ways. -/
theorem not_durable : ¬ Durable {} [] torn a ∧
    ¬ Durable { compactThreshold := some 1 } [] compacting a ∧ ¬ Durable {} [] shredding a ∧
    ¬ Durable {} [] unreturned a ∧ ¬ Durable {} [] changed a := by
  refine ⟨fun h => ?_, fun h => ?_, fun h => ?_, fun h => ?_, fun h => ?_⟩ <;> cases h _ rfl

end State

end QuorumProof.DurableLog
