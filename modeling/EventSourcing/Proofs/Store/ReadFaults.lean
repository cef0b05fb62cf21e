import EventSourcing.Proofs.Store.LogContents

/-!
# Faults of reading

How a replay of the store on disk can end. What is wrong with a line of the log is most often a
fault of the value family, and then it is reported as a fault of reading, with the place of the
line. Two kinds of lines get past this: a line with a time that is neither a text nor void, and
one whose values are nested too deep. `Reported` holds of the ends that there are, of a replay
and of what does nothing else than to replay.
-/

set_option autoImplicit false

namespace EventSourcing

/-! ## Illegible lines -/

/-- The faults of lines that are not reported as faults of reading: a time that cannot be
stripped, and values that are nested too deep. -/
def Fault.Escapes : Fault → Prop
  | .lacksAttribute _ name => name = "strip"
  | .json (.tooDeep _) => True
  | _ => False

namespace Datum

theorem ofJson_ne_bytes (json : Json) (octets : List UInt8) : ofJson json ≠ .bytes octets := by
  cases json <;> simp [ofJson]

/-- What is read under a name of a JSON object is the value of some JSON. -/
theorem exists_ofJson_of_get? {members : List (AnyText × Json)} {key datum : Datum}
    (found : Entries.get? (ofJsonMembers members) key = some datum) :
    ∃ json, datum = ofJson json := by
  induction members with
  | nil => cases found
  | cons member members ih =>
      obtain ⟨name, json⟩ := member
      rw [ofJsonMembers, Entries.get?, List.find?_cons] at found
      split at found
      · cases found
        exact ⟨json, rfl⟩
      · exact ih found

end Datum

namespace Event

private theorem readMoment?_error {value : Option Datum} {fault : Fault}
    (failed : readMoment? value = .error fault)
    (noOctets : ∀ octets, value ≠ some (.bytes octets)) :
    fault.family = .value ∨ fault.Escapes := by
  unfold readMoment? at failed
  split at failed
  · cases failed
  · cases parsed : Timestamp.parseAny? _ with
    | ok moment =>
        rw [parsed] at failed
        cases failed
    | error reason =>
        rw [parsed] at failed
        cases failed
        exact .inl rfl
  · rename_i octets
    exact absurd rfl (noOctets octets)
  · split at failed
    · cases failed
    · cases failed
      exact .inr rfl

private theorem bind_eq_error {First Next : Type} {first : Except Fault First}
    {next : First → Except Fault Next} {fault : Fault} (failed : first >>= next = .error fault) :
    first = .error fault ∨ ∃ value, next value = .error fault := by
  cases first with
  | error reason =>
      cases failed
      exact .inl rfl
  | ok value => exact .inr ⟨value, failed⟩

private theorem ofRecord?_error {members : List (AnyText × Json)} {fault : Fault}
    (failed : ofRecord? (Datum.ofJsonMembers members) = .error fault) :
    fault.family = .value ∨ fault.Escapes := by
  have noOctets (name : String) (octets : List UInt8) :
      Entries.get? (Datum.ofJsonMembers members) (.text name) ≠ some (.bytes octets) := by
    intro found
    obtain ⟨json, same⟩ := Datum.exists_ofJson_of_get? found
    exact Datum.ofJson_ne_bytes json octets same.symm
  let build (payload : Entries) (occurredOn persistedAt : Option Moment) : Event :=
    let part (name : String) := textOrElse (Entries.get? (Datum.ofJsonMembers members) (.text name))
    { name := part "Name", streamId := part "StreamId", id := part "Id"
      occurredOn := ofMoment? occurredOn, persistedAt := ofMoment? persistedAt
      payload := .mapping payload }
  have times (payload : Entries) (failed : (do
      let occurredOn ← readMoment? (Entries.get? (Datum.ofJsonMembers members)
        (.text "OccurredOn"))
      let persistedAt ← readMoment? (Entries.get? (Datum.ofJsonMembers members)
        (.text "PersistedAt"))
      return build payload occurredOn persistedAt) = Except.error fault) :
      fault.family = .value ∨ fault.Escapes := by
    rcases bind_eq_error failed with refused | ⟨occurredOn, failed⟩
    · exact readMoment?_error refused (noOctets "OccurredOn")
    rcases bind_eq_error failed with refused | ⟨persistedAt, failed⟩
    · exact readMoment?_error refused (noOctets "PersistedAt")
    · cases failed
  rw [ofRecord?] at failed
  split at failed
  · exact times [] failed
  · split at failed
    · exact times [] failed
    · split at failed
      · exact times _ failed
      · cases failed
        exact .inl rfl

/-- A line that describes no event has a fault of the value family, or one of those that are
not reported. -/
theorem decode_error {line : AnyText} {fault : Fault} (failed : decode line = .error fault) :
    fault.family = .value ∨ fault.Escapes := by
  rw [decode] at failed
  cases parsed : Json.parse? line with
  | error reason =>
      rw [parsed] at failed
      cases failed
      cases reason with
      | tooDeep container => exact .inr trivial
      | _ => exact .inl rfl
  | ok json =>
      rw [parsed] at failed
      cases json with
      | object members => exact ofRecord?_error failed
      | _ =>
          cases failed
          exact .inl rfl

end Event

namespace LogFile

theorem decodeLine_error {octets : List UInt8} {fault : Fault}
    (failed : decodeLine octets = .error fault) : fault.family = .value ∨ fault.Escapes := by
  rw [decodeLine] at failed
  cases decoded : Utf8.decode octets with
  | error reason =>
      rw [decoded] at failed
      cases failed
      exact .inl rfl
  | ok line =>
      rw [decoded] at failed
      exact Event.decode_error failed

end LogFile

namespace DiskStore

variable {D : Domain} {State : Type}

/-! ## How a replay ends -/

/-- What a replay hands events to returns every time, and leaves the log a file that can be
read. -/
def Returns (path : Path) (step : State → Ref .event → Act D State) : Prop :=
  ∀ {content} state event (system : System D), system.files.HasFile path content →
    ∃ next after later, step state event system = (.ok next, after) ∧
      after.files.HasFile path later

/-- What a replay hands events to leaves the octets of the log alone. -/
def LeavesLog (path : Path) (step : State → Ref .event → Act D State) : Prop :=
  ∀ content state event, Act.Keeps (SameLog path content) (step state event)

/-- The ends of a replay of the log at a path. It comes to an end unless the log may grow while
it is read. -/
inductive Reported {Result : Type} (path : Path) (grows : Prop) :
    Except Halt Result × System D → Prop
  | returned (result : Result) (after : System D) : Reported path grows (.ok result, after)
  | unreadable {fault : Ref .fault} {after : System D} (location detail : Datum) :
      after.faults.get fault = .storeRead location detail →
      Reported path grows (.error (.raised fault), after)
  /-- A line of the log has a fault that is not reported. -/
  | illegible {fault : Ref .fault} {after : System D} {content : List UInt8} (offset : Nat) :
      after.files.HasFile path content →
      LogFile.decodeLine (LogFile.firstLine (content.drop offset)) =
        .error (after.faults.get fault) →
      (after.faults.get fault).Escapes → Reported path grows (.error (.raised fault), after)
  /-- The path is none that the system could be asked about. -/
  | unusable {fault : Ref .fault} {after : System D} :
      Char.ofNat 0 ∈ path.text.toList →
      after.faults.get fault = .file ⟨.nullCharacter, path⟩ →
      Reported path grows (.error (.raised fault), after)
  | unending (after : System D) : grows → Reported path grows (.error .exhausted, after)

section Reporting

variable {path : Path} {system : System D} {content : List UInt8}
  {step : State → Ref .event → Act D State}

/-- A line that cannot be read is a fault of reading, or has a fault that is not reported. -/
private theorem describe_error {number : Nat} {octets : List UInt8} {fault : Fault}
    (failed : describe path number octets = .error fault) :
    (∃ location detail, fault = .storeRead location detail) ∨
      LogFile.decodeLine octets = .error fault ∧ fault.Escapes := by
  rw [describe] at failed
  split at failed
  · cases failed
  · split at failed
    · cases failed
    · rename_i cause decoded
      by_cases isValue : cause.family = .value
      · rw [if_pos isValue] at failed
        cases failed
        exact .inl ⟨_, _, rfl⟩
      · rw [if_neg isValue] at failed
        cases failed
        exact .inr ⟨decoded, (LogFile.decodeLine_error decoded).resolve_left isValue⟩

private theorem replayLine_returns (returns : Returns path step) {octets : List UInt8}
    {number : Nat} {described : Option Event} (shown : describe path number octets = .ok described)
    (streamId : AnyText) (state : State) (file : system.files.HasFile path content) :
    ∃ next after later, replayLine streamId state step described system = (.ok next, after) ∧
      after.files.HasFile path later := by
  cases described with
  | none => exact ⟨state, system, content, rfl, file⟩
  | some event =>
      rw [replayLine]
      split
      · obtain ⟨entries, payload⟩ := payload_of_described shown
        obtain ⟨made, after, creates, closes, -, -, same⟩ :=
          LiveEvent.create_sealEvent payload system
        rw [Act.bind_of_ok creates, Act.bind_of_ok closes]
        have fileAfter : after.files.HasFile path content := by
          rw [same]
          exact file
        exact returns state _ after fileAfter
      · exact ⟨state, system, content, rfl, file⟩

theorem replayFrom_reported (returns : Returns path step) {lines offset : Nat}
    (enough : LeavesLog path step → (LogFile.records (content.drop offset)).length < lines)
    (streamId : AnyText) (number : Nat) (state : State) (file : system.files.HasFile path content) :
    Reported path (¬ LeavesLog path step)
      (replayFrom path streamId step state offset number lines system) := by
  -- The log that is left for the next line may be another one than is read here.
  induction lines generalizing offset number state system content with
  | zero => exact .unending system fun leaves => Nat.not_lt_zero _ (enough leaves)
  | succ lines ih =>
      have read := readLine_run file offset number
      dsimp only at read
      rw [replayFrom]
      cases described : describe path number (LogFile.firstLine (content.drop offset)) with
      | error fault =>
          rw [described] at read
          rw [Act.bind_of_error (read.trans (Act.throw_run fault system))]
          have kept : (system.faults.push fault).get system.faults.nextRef = fault := by
            rw [Table.get_push, if_pos rfl]
          rcases describe_error described with ⟨location, detail, rfl⟩ | ⟨decoded, escapes⟩
          · exact .unreadable location detail kept
          · rw [← kept] at decoded escapes
            exact .illegible offset file decoded escapes
      | ok event =>
          rw [described] at read
          rw [Act.bind_of_ok read]
          dsimp only
          split
          · exact .returned state system
          · rename_i some
            obtain ⟨next, after, later, ran, fileAfter⟩ :=
              replayLine_returns returns described streamId state file
            rw [Act.bind_of_ok ran]
            refine ih (fun leaves => ?_) (number + 1) next fileAfter
            have kept :=
              keeps_replayLine sameLog_of_files streamId (leaves content) state event system file
            rw [ran] at kept
            obtain rfl := fileAfter.unique kept
            have more := enough leaves
            have rest : content.drop offset ≠ [] := by
              intro none
              rw [none] at some
              exact some rfl
            rw [LogFile.records_eq_cons rest, List.drop_drop, List.length_cons] at more
            omega

/-- A replay of a log on disk ends as is reported, whatever the octets of its file are and
whether there is a file. -/
theorem replay_reported (returns : Returns path step) (streamId : AnyText) (state : State)
    (system : System D) :
    Reported path (¬ LeavesLog path step) (replay path streamId state step system) := by
  rw [replay, Act.bind_of_ok (Act.read_run _ _)]
  cases found : system.files.read path with
  | ok content =>
      have size := LogFile.length_records_le content
      refine replayFrom_reported returns (fun _ => ?_) streamId 1 state
        (FileTree.hasFile_read.mp found)
      rw [List.drop_zero, growthAllowance]
      omega
  | error fault =>
      have kept (cause : Fault) : (system.faults.push cause).get system.faults.nextRef = cause := by
        rw [Table.get_push, if_pos rfl]
      rcases FileTree.read_eq_error found with ofSystem | ⟨null, rfl⟩
      · have family : (Fault.file fault).family = .system := if_pos ofSystem
        dsimp only
        rw [if_pos family, Act.throw_run]
        exact .unreadable _ _ (kept _)
      · exact .unusable null (kept _)

end Reporting

end DiskStore

end EventSourcing
