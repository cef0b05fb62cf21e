import EventSourcing.Proofs.Event.Sealing
import EventSourcing.Proofs.Files.TreeLaws
import EventSourcing.Proofs.Store.LogRecords
import Mathlib.Data.List.Forall2

/-!
# Replaying the store on disk

A replay reads the file again for every line. While the code that it hands events to
leaves the octets of the log alone, it reads the records of the file one after another;
where every record is the line of an event, it hands over those events.
-/

set_option autoImplicit false

namespace EventSourcing

variable {D : Domain} {State : Type}

namespace LogFile

/-- Octets that consist of the lines of events. -/
def Describes (octets : List UInt8) (contents : List Event) : Prop :=
  ∃ lines : List String, octets = lines.flatMap encodeLine ∧
    List.Forall₂ (fun line content => IsRecord line ∧ decodeLine (encodeLine line) = .ok content)
      lines contents

theorem encodeLine_eq (line : String) : encodeLine line = Utf8.encode (line.toList ++ ['\n']) := by
  rw [Utf8.encode_append]
  rfl

theorem decodeLine_encodeLine (line : String) :
    decodeLine (encodeLine line) = Event.decode (String.ofList (line.toList ++ ['\n'])) := by
  rw [decodeLine, encodeLine_eq, Utf8.decode_encode_text]
  rfl

theorem IsRecord.not_blank {line : String} (record : IsRecord line) :
    (encodeLine line).all isBlankOctet = false := by
  obtain ⟨rest, shown⟩ := List.head?_eq_some_iff.mp record.2
  rw [encodeLine_eq, shown]
  rfl

theorem firstLine_ne_nil {octets : List UInt8} (some : octets ≠ []) : firstLine octets ≠ [] := by
  cases octets with
  | nil => exact absurd rfl some
  | cons octet rest =>
      rw [firstLine]
      split <;> simp

theorem records_eq_cons {octets : List UInt8} (some : octets ≠ []) :
    records octets = firstLine octets :: records (octets.drop (firstLine octets).length) := by
  induction octets with
  | nil => exact absurd rfl some
  | cons octet rest ih =>
      rw [records, firstLine]
      split
      · rfl
      · cases rest with
        | nil => rfl
        | cons next rest =>
            rw [ih (by simp), List.length_cons, List.drop_succ_cons]

theorem length_firstLine_le (octets : List UInt8) : (firstLine octets).length ≤ octets.length := by
  induction octets with
  | nil => exact Nat.le_refl 0
  | cons octet rest ih =>
    rw [firstLine]
    split
    · exact Nat.le_add_left 1 _
    · exact Nat.succ_le_succ ih

theorem firstLine_append {octets : List UInt8} (ended : Ended octets) (some : octets ≠ [])
    (rest : List UInt8) : firstLine (octets ++ rest) = firstLine octets := by
  have split := records_append ended rest
  rw [records_eq_cons some, records_eq_cons (List.append_ne_nil_of_left_ne_nil some rest),
    List.cons_append] at split
  exact (List.cons.inj split).1

theorem length_records_le (octets : List UInt8) : (records octets).length ≤ octets.length := by
  induction octets with
  | nil => exact Nat.le_refl 0
  | cons octet rest ih =>
      rw [records, List.length_cons]
      split
      · rw [List.length_cons]
        omega
      · split
        · rw [List.length_singleton]
          omega
        · rename_i record later shown
          rw [shown, List.length_cons] at ih
          rw [List.length_cons]
          omega

end LogFile

namespace DiskStore

/-- The event of a line with a number, unless it is blank, or what a replay raises about it. -/
def describe (path : Path) (number : Nat) (octets : List UInt8) : Except Fault (Option Event) :=
  if octets.all LogFile.isBlankOctet then .ok none
  else
    match LogFile.decodeLine octets with
    | .ok event => .ok (some event)
    | .error fault =>
      .error (if fault.family = .value then
        .storeRead (.text s!"{path.text}:{number}") (.text fault.message) else fault)

theorem readLine_run {system : System D} {path : Path} {content : List UInt8}
    (file : system.files.HasFile path content) (offset number : Nat) :
    readLine path offset number system = (do
      let octets := LogFile.firstLine (content.drop offset)
      return (octets, ← Act.ofExcept (describe path number octets)) :
        Act D (List UInt8 × Option Event)) system := by
  have opened : Act.ofExcept ((system.files.read path).mapError .file) system =
      (.ok content, system) := by
    rw [FileTree.hasFile_read.mpr file]
    rfl
  rw [readLine, Act.bind_of_ok (Act.read_run _ _), Act.bind_of_ok opened]
  unfold describe
  dsimp only
  split
  · rfl
  · cases LogFile.decodeLine (LogFile.firstLine (content.drop offset)) with
    | ok event => rfl
    | error fault =>
        dsimp only
        split <;> rfl

def replayRecords (path : Path) (streamId : AnyText) (step : State → Ref .event → Act D State)
    (number : Nat) (state : State) : List (List UInt8) → Act D State
  | [] => pure state
  | octets :: rest => do
    let described ← Act.ofExcept (describe path number octets)
    let state ← replayLine streamId state step described
    replayRecords path streamId step (number + 1) state rest

def SameLog (path : Path) (content : List UInt8) (before after : System D) : Prop :=
  before.files.HasFile path content → after.files.HasFile path content

instance (path : Path) (content : List UInt8) : Act.Frame (D := D) (SameLog path content) where
  refl _ := id
  trans first second := second ∘ first

section Keeping

variable {relation : System D → System D → Prop} [Act.Frame relation]

private theorem keeps_create
    (aside : ∀ {before after : System D}, after.files = before.files → relation before after)
    (event : Event) : Act.Keeps relation (LiveEvent.create (D := D) event) := by
  unfold LiveEvent.create
  refine Act.Keeps.bind ?_ ?_
  · unfold LiveEvent.newPayload
    cases event.payload <;> exact fun _ => aside rfl
  · exact fun _ _ => aside rfl

/-- What covers the step, and all that leaves the files alone, covers a line of a replay. -/
theorem keeps_replayLine
    (aside : ∀ {before after : System D}, after.files = before.files → relation before after)
    (streamId : AnyText) {step : State → Ref .event → Act D State}
    (keeps : ∀ state event, Act.Keeps relation (step state event)) (state : State)
    (described : Option Event) :
    Act.Keeps relation (replayLine streamId state step described) := by
  cases described with
  | none => exact Act.keeps_pure state
  | some event =>
      rw [replayLine]
      split
      · exact (keeps_create aside event).bind fun made =>
          (LiveEvent.keeps_sealEvent (fun _ _ => aside rfl) fun _ _ => aside rfl).bind
            fun _ => keeps state made
      · exact Act.keeps_pure state

end Keeping

theorem sameLog_of_files {path : Path} {content : List UInt8} {before after : System D}
    (same : after.files = before.files) : SameLog path content before after := by
  intro file
  rwa [same]

variable {path : Path} {content : List UInt8}

/-- Behind the last line a replay is over. -/
theorem replayFrom_end {system : System D} (file : system.files.HasFile path content)
    {offset : Nat} (none : content.drop offset = []) (streamId : AnyText)
    (step : State → Ref .event → Act D State) (number lines : Nat) (state : State) :
    replayFrom path streamId step state offset number (lines + 1) system = (.ok state, system) := by
  have read := readLine_run file offset number
  rw [none] at read
  rw [replayFrom, Act.bind_of_ok read]
  rfl

/-- A replay reads the line at an offset of the file, and goes on behind it. -/
theorem replayFrom_line {system : System D} (file : system.files.HasFile path content)
    {offset : Nat} (some : content.drop offset ≠ []) (streamId : AnyText)
    (step : State → Ref .event → Act D State) (number lines : Nat) (state : State) :
    replayFrom path streamId step state offset number (lines + 1) system = (do
      let described ← Act.ofExcept
        (describe path number (LogFile.firstLine (content.drop offset)))
      let next ← replayLine streamId state step described
      replayFrom path streamId step next
        (offset + (LogFile.firstLine (content.drop offset)).length) (number + 1) lines) system := by
  have read := readLine_run file offset number
  have first : ¬ (LogFile.firstLine (content.drop offset)).isEmpty = true := by
    rw [List.isEmpty_iff]
    exact LogFile.firstLine_ne_nil some
  rw [replayFrom]
  dsimp only at read
  cases described : describe path number (LogFile.firstLine (content.drop offset)) with
  | error fault =>
      rw [described] at read
      rw [Act.bind_of_error read]
      rfl
  | ok event =>
      rw [described] at read
      have answered : Act.ofExcept (Except.ok event) system = (.ok event, system) := rfl
      rw [Act.bind_of_ok read, Act.bind_of_ok answered]
      dsimp only
      rw [if_neg first]

/-- A replay reads the records from an offset on, as long as the log is known to be there: what is
known of the system must survive the lines that describe something. -/
theorem replayFrom_eq_of_known {known : System D → Prop} {streamId : AnyText}
    {step : State → Ref .event → Act D State}
    (file : ∀ {system}, known system → system.files.HasFile path content)
    (kept : ∀ {number octets described state next system after}, known system →
      describe path number octets = .ok described →
      replayLine streamId state step described system = (.ok next, after) → known after)
    {lines offset : Nat} (enough : (LogFile.records (content.drop offset)).length < lines)
    (number : Nat) (state : State) {system : System D} (here : known system) :
    replayFrom path streamId step state offset number lines system =
      replayRecords path streamId step number state (LogFile.records (content.drop offset))
        system := by
  -- Every line read takes one record, so there are always more lines allowed than records.
  induction lines generalizing offset number state system with
  | zero => exact absurd enough (Nat.not_lt_zero _)
  | succ lines ih =>
      by_cases none : content.drop offset = []
      · rw [replayFrom_end (file here) none, none]
        rfl
      rw [replayFrom_line (file here) none]
      rw [LogFile.records_eq_cons none, List.drop_drop] at enough ⊢
      rw [replayRecords]
      cases described : describe path number (LogFile.firstLine (content.drop offset)) with
      | error fault => rfl
      | ok event =>
          have answered : Act.ofExcept (Except.ok event) system = (.ok event, system) := rfl
          rw [Act.bind_of_ok answered, Act.bind_of_ok answered]
          rcases shown : replayLine streamId state step event system with ⟨halt | next, after⟩
          · rw [Act.bind_of_error shown, Act.bind_of_error shown]
          · rw [Act.bind_of_ok shown, Act.bind_of_ok shown]
            exact ih (by simpa using enough) (number + 1) next (kept here described shown)

theorem replay_eq_of_known {known : System D → Prop} {streamId : AnyText}
    {step : State → Ref .event → Act D State}
    (file : ∀ {system}, known system → system.files.HasFile path content)
    (kept : ∀ {number octets described state next system after}, known system →
      describe path number octets = .ok described →
      replayLine streamId state step described system = (.ok next, after) → known after)
    (state : State) {system : System D} (here : known system) :
    replay path streamId state step system =
      replayRecords path streamId step 1 state (LogFile.records content) system := by
  have size := LogFile.length_records_le content
  have enough : (LogFile.records (content.drop 0)).length < content.length + growthAllowance := by
    rw [List.drop_zero, growthAllowance]
    omega
  rw [replay, Act.bind_of_ok (Act.read_run _ _), FileTree.hasFile_read.mpr (file here)]
  exact replayFrom_eq_of_known file kept enough 1 state here

/-- A replay reads the records of the file, if what it hands events to leaves the log as it is. -/
theorem replay_eq {streamId : AnyText} {step : State → Ref .event → Act D State}
    (keeps : ∀ state event, Act.Keeps (SameLog path content) (step state event)) (state : State)
    {system : System D} (file : system.files.HasFile path content) :
    replay path streamId state step system =
      replayRecords path streamId step 1 state (LogFile.records content) system := by
  refine replay_eq_of_known id ?_ state file
  intro _ _ described state next system after there _ ran
  have kept := keeps_replayLine sameLog_of_files streamId keeps state described system
  rw [ran] at kept
  exact kept there

theorem store_replay {handlers : Handlers D} {system : System D} {store : Ref .store}
    {path : Path} {clock : Ref .clock} (holds : system.stores.get store = .disk path clock)
    (streamId : AnyText) (state : State) (step : State → Ref .event → Act D State) :
    Store.replay handlers store streamId state step system =
      replay path streamId state step system := by
  simp only [Store.replay, bind, Act.bind, Act.read, holds]

def replayContents (streamId : AnyText) (step : State → Ref .event → Act D State) :
    State → List Event → Act D State :=
  Act.fold fun state event => replayLine streamId state step (some event)

/-- A log that consists of the lines of events hands over those events. -/
theorem replay_of_describes (streamId : AnyText) {step : State → Ref .event → Act D State}
    (keeps : ∀ state event, Act.Keeps (SameLog path content) (step state event)) (state : State)
    {system : System D} (file : system.files.HasFile path content) {contents : List Event}
    (describes : LogFile.Describes content contents) :
    replay path streamId state step system =
      replayContents streamId step state contents system := by
  obtain ⟨lines, rfl, all⟩ := describes
  have shown := LogFile.records_append_lines (.inl rfl) ((List.forall₂_and_left _ _).mp all).1
  rw [List.nil_append, LogFile.records, List.nil_append] at shown
  rw [replay_eq keeps state file, shown]
  have follow (number : Nat) (state : State) : replayRecords path streamId step number state
      (lines.map LogFile.encodeLine) = replayContents streamId step state contents := by
    clear shown file keeps
    induction all generalizing number state with
    | nil => rfl
    | @cons line event lines contents first _ ih =>
        obtain ⟨record, decoded⟩ := first
        have known : describe path number (LogFile.encodeLine line) = .ok (some event) := by
          rw [describe, record.not_blank, decoded]
          rfl
        have read (system : System D) :
            (Act.ofExcept (.ok (some event)) : Act D (Option Event)) system =
              (.ok (some event), system) := rfl
        funext system
        rw [List.map_cons, replayRecords, known, Act.bind_of_ok (read system)]
        simp only [ih]
        rfl
  rw [follow]

end DiskStore

end EventSourcing
