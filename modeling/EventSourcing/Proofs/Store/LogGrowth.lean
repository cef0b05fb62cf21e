import EventSourcing.Proofs.Store.DiskAppend
import EventSourcing.Proofs.Store.LogCourse

/-!
# Logs that grow

Storing events takes nothing away from a log on disk: its file goes on to begin with the octets
that it had. While the code that a replay calls only adds to a log that has an end for every line,
the replay reads the lines that the log had, as if it had not grown, and goes on with what was
added behind them.
-/

set_option autoImplicit false

namespace EventSourcing

variable {D : Domain} {State : Type}

namespace DiskStore

/-- If the log began with some octets it goes on to do so, whatever was added behind them. -/
def SameBeginning (path : Path) (content : List UInt8) (before after : System D) : Prop :=
  before.files.BeginsWith path content → after.files.BeginsWith path content

instance (path : Path) (content : List UInt8) :
    Act.Frame (D := D) (SameBeginning path content) where
  refl _ := id
  trans first second := second ∘ first

theorem sameBeginning_of_files {path : Path} {content : List UInt8} {before after : System D}
    (same : after.files = before.files) : SameBeginning path content before after := by
  rw [SameBeginning, same]
  exact id

end DiskStore

/-! ## What storing adds -/

section Storing

open DiskStore (SameBeginning sameBeginning_of_files)

variable {path other : Path} {content : List UInt8} {clock : Ref .clock}

private theorem grows_newFault (fault : Fault) :
    Act.Keeps (SameBeginning (D := D) path content) (Act.newFault fault) :=
  fun _ => sameBeginning_of_files rfl

private theorem grows_logRecord (logger : String) (level : Level) (message : String) :
    Act.Keeps (SameBeginning (D := D) path content) (Act.logRecord logger level message) :=
  fun _ => sameBeginning_of_files rfl

private theorem grows_sealEvent (event : Ref .event) :
    Act.Keeps (SameBeginning (D := D) path content) (LiveEvent.sealEvent event) :=
  LiveEvent.keeps_sealEvent grows_newFault fun _ _ => sameBeginning_of_files rfl

namespace DiskStore

private theorem grows_changeFiles (octets : List UInt8) :
    Act.Keeps (SameBeginning (D := D) path content) (changeFiles (·.append other octets)) := by
  intro system begins
  cases ran : system.files.append other octets with
  | error fault =>
    have failed : changeFiles (·.append other octets) system =
        (Act.throw (.file fault) : Act D Unit) system := by
      simp only [changeFiles, bind, Act.bind, Act.read, ran]
      rfl
    rw [failed]
    exact Act.keeps_throw grows_newFault _ system begins
  | ok files =>
    rw [changeFiles_of_ok system ran]
    exact begins.append ran

private theorem grows_makeDirectories :
    Act.Keeps (SameBeginning (D := D) path content) (makeDirectories other) := by
  intro system begins
  have grown := begins.makeDirectories other.parent
  rcases made : system.files.makeDirectories other.parent with ⟨files, failure⟩
  rw [made] at grown
  cases failure with
  | none =>
    have ran : makeDirectories other system = (.ok (), { system with files }) := by
      simp only [makeDirectories, bind, Act.bind, Act.read, Act.update, made]
      rfl
    rw [ran]
    exact grown
  | some fault =>
    have failed : makeDirectories other system =
        (Act.throw (.file fault) : Act D Unit) { system with files } := by
      simp only [makeDirectories, bind, Act.bind, Act.read, Act.update, made]
    rw [failed]
    exact Act.keeps_throw grows_newFault _ _ grown

private theorem grows_appendEvent (event : Ref .event) :
    Act.Keeps (SameBeginning (D := D) path content) (appendEvent other clock event) := by
  refine (LiveEvent.keeps_persist grows_newFault (fun _ => sameBeginning_of_files rfl)
    fun _ _ _ => sameBeginning_of_files rfl).bind fun _ => ?_
  refine (LiveEvent.keeps_logLine grows_newFault event).bind fun line => ?_
  exact (grows_changeFiles _).bind fun _ => grows_sealEvent event

private theorem grows_appendEvents (events : List (Ref .event)) (written : Nat) :
    Act.Keeps (SameBeginning (D := D) path content) (appendEvents other clock written events) := by
  induction events generalizing written with
  | nil => exact Act.keeps_pure _
  | cons event events ih =>
    refine (grows_appendEvent event).attempt.bind fun appended => ?_
    cases appended with
    | ok _ => exact ih (written + 1)
    | error fault => exact Act.keeps_pure _

private theorem grows_append (events : List (Ref .event)) :
    Act.Keeps (SameBeginning (D := D) path content) (append other clock events) := by
  have opens : Act.Keeps (SameBeginning (D := D) path content) (openLog other) :=
    grows_makeDirectories.bind fun _ => grows_changeFiles []
  have concludes (written : Nat) (failure : Option (Ref .fault)) :
      Act.Keeps (SameBeginning (D := D) path content) (conclude other written failure) :=
    keeps_conclude grows_newFault grows_logRecord other written failure
  refine opens.attempt.bind fun opened => ?_
  cases opened with
  | ok _ =>
    refine (grows_appendEvents events 0).bind fun (written, failure) => ?_
    cases failure with
    | none => exact concludes written none
    | some fault => exact concludes written (some fault)
  | error fault => exact concludes 0 (some fault)

end DiskStore

/-- Storing events, in whatever store, takes nothing away from a log on disk. -/
theorem Store.keeps_append {handlers : Handlers D}
    (foreign : ∀ description events, Act.Keeps (SameBeginning path content)
      (handlers.storeForeign description events)) (store : Ref .store)
    (events : List (Ref .event)) :
    Act.Keeps (SameBeginning path content) (append handlers store events) := by
  have notes : Act.Keeps (SameBeginning (D := D) path content)
      (Act.noteCall (.storeEvents store events)) :=
    fun _ => sameBeginning_of_files rfl
  refine notes.bind fun _ => (Act.keeps_read _).bind fun known => ?_
  cases known with
  | memory held =>
    refine (Act.keeps_forEach fun event _ => grows_sealEvent event).bind fun _ => ?_
    exact Act.Keeps.bind (fun _ => sameBeginning_of_files rfl) fun _ => grows_logRecord _ _ _
  | disk other clock => exact DiskStore.grows_append events
  | foreign description => exact foreign description events

end Storing

/-! ## Reading on -/

namespace DiskStore

variable {path : Path} {content : List UInt8} {streamId : AnyText}
  {step : State → Ref .event → Act D State} {system : System D}

/-- A replay of a log that only grows reads the records that it had from an offset on, and goes on
behind them. -/
theorem replayFrom_grown
    (keeps : ∀ state event, Act.Keeps (SameBeginning path content) (step state event))
    (ended : LogFile.Ended content) {offset : Nat} (within : offset ≤ content.length)
    {records : List (List UInt8)} (shown : LogFile.records (content.drop offset) = records)
    (number left : Nat) (state : State) (begins : system.files.BeginsWith path content) :
    replayFrom path streamId step state offset number (records.length + left) system = (do
      let last ← replayRecords path streamId step number state records
      replayFrom path streamId step last content.length (number + records.length) left) system := by
  induction records generalizing offset number state system with
  | nil =>
    have none := List.drop_eq_nil_iff.mp (LogFile.records_eq_nil_iff.mp shown)
    have done : replayRecords path streamId step number state [] system = (.ok state, system) := rfl
    rw [Act.bind_of_ok done, Nat.le_antisymm within none, List.length_nil, Nat.zero_add,
      Nat.add_zero]
  | cons line rest ih =>
    have some : content.drop offset ≠ [] := by
      intro none
      rw [none] at shown
      cases shown
    rw [LogFile.records_eq_cons some, List.drop_drop] at shown
    obtain ⟨rfl, later⟩ := List.cons.inj shown
    obtain ⟨added, file⟩ := id begins
    have behind : (content ++ added).drop offset = content.drop offset ++ added :=
      List.drop_append_of_le_length within
    have same : LogFile.firstLine ((content ++ added).drop offset) =
        LogFile.firstLine (content.drop offset) := by
      rw [← List.take_append_drop offset content] at ended
      rw [behind]
      exact LogFile.firstLine_append ended.of_append some added
    have reads := replayFrom_line file (behind ▸ List.append_ne_nil_of_left_ne_nil some added)
      streamId step number (rest.length + left) state
    rw [same] at reads
    rw [List.length_cons, Nat.add_right_comm, reads, replayRecords, Act.bind_assoc]
    cases described : describe path number (LogFile.firstLine (content.drop offset)) with
    | error fault => rfl
    | ok event =>
      have answered : Act.ofExcept (Except.ok event) system = (.ok event, system) := rfl
      rw [Act.bind_of_ok answered, Act.bind_of_ok answered, Act.bind_assoc]
      have kept := keeps_replayLine sameBeginning_of_files streamId keeps state event system begins
      rcases ran : replayLine streamId state step event system with ⟨halt | next, after⟩
      · rw [Act.bind_of_error ran, Act.bind_of_error ran]
      · rw [ran] at kept
        have size := LogFile.length_firstLine_le (content.drop offset)
        rw [List.length_drop] at size
        rw [Act.bind_of_ok ran, Act.bind_of_ok ran, ih (by omega) later (number + 1) next kept,
          Nat.add_assoc, Nat.add_comm 1]

theorem replay_grown (streamId : AnyText)
    (keeps : ∀ state event, Act.Keeps (SameBeginning path content) (step state event))
    (ended : LogFile.Ended content) (file : system.files.HasFile path content) (state : State) :
    ∃ left, growthAllowance ≤ left ∧ replay path streamId state step system = (do
      let last ← replayRecords path streamId step 1 state (LogFile.records content)
      replayFrom path streamId step last content.length (1 + (LogFile.records content).length)
        left) system := by
  have size := LogFile.length_records_le content
  obtain ⟨left, enough⟩ :=
    Nat.exists_eq_add_of_le (Nat.le_trans size (Nat.le_add_right _ growthAllowance))
  refine ⟨left, by omega, ?_⟩
  rw [replay, Act.bind_of_ok (Act.read_run _ _), FileTree.hasFile_read.mpr file]
  dsimp only
  rw [enough]
  exact replayFrom_grown keeps ended (Nat.zero_le _) (congrArg _ List.drop_zero) 1 left state
    file.beginsWith

/-- The lines that were read are still there. -/
theorem Covers.beginsWith {clock : Ref .clock} {state last : State} {reached : System D}
    {lines : List (List UInt8)} {handed : List (System D × Ref .event)}
    (covers : Covers path clock streamId step state system lines handed last reached)
    (keeps : ∀ state event, Act.Keeps (SameBeginning path content) (step state event))
    (begins : system.files.BeginsWith path content) : reached.files.BeginsWith path content := by
  have offered {before given : System D} {event : Ref .event}
      (offers : Store.Offers (.disk path clock) before event given) :
      SameBeginning path content before given :=
    sameBeginning_of_files (by rw [offers.same])
  have kept := (covers.hands.relates offered (fun pair _ state => keeps state pair.2 pair.1)
    fun _ _ => sameBeginning_of_files rfl).1
  exact kept begins

end DiskStore

end EventSourcing
