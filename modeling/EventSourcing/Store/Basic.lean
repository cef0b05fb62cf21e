import EventSourcing.Event.Live
import EventSourcing.Fault.Validation

/-!
# Stores of events

A store appends events in the order given and replays those of one stream, or of
every stream, in the same order. The store in memory keeps the events themselves;
it also serves as the place where an aggregate publishes events that are not
stored yet. The store on disk writes one line for each event and reads the lines
again at every replay, one after another, also those that were added since the
replay began.
-/

set_option autoImplicit false

namespace EventSourcing

variable {D : Domain}

def storeLogger : String := "ess.event_store"

namespace MemoryStore

/-- The events of a store in memory; other stores hold none there. -/
def eventsIn (system : System D) (store : Ref .store) : List (Ref .event) :=
  match system.stores.get store with
  | .memory events => events
  | _ => []

def create : Act D (Ref .store) :=
  fun system =>
    (.ok system.stores.nextRef, { system with stores := system.stores.push (.memory []) })

def events (store : Ref .store) : Act D (List (Ref .event)) :=
  Act.read (eventsIn · store)

/-- Adds events at the end without sealing them. -/
def extend (store : Ref .store) (events : List (Ref .event)) : Act D Unit :=
  Act.update fun system =>
    let held := eventsIn system store
    { system with stores := system.stores.set store (.memory (held ++ events)) }

def publish (store : Ref .store) (event : Ref .event) : Act D Unit :=
  extend store [event]

def append (store : Ref .store) (events : List (Ref .event)) : Act D Unit := do
  Act.forEach LiveEvent.sealEvent events
  extend store events
  Act.logRecord storeLogger .debug s!"Stored {events.length} event(s) in memory"

/-- Folds the events that match, among those held when it begins. -/
def replay {State : Type} (store : Ref .store) (streamId : AnyText) (state : State)
    (step : State → Ref .event → Act D State) : Act D State := do
  Act.fold
    (fun state event => do
      let content ← LiveEvent.content event
      if content.matchesStream streamId then step state event else pure state)
    state (← events store)

end MemoryStore

namespace LogFile

def lineEnd : UInt8 := 0x0A

def isBlankOctet (octet : UInt8) : Bool :=
  (0x09 ≤ octet.toNat && octet.toNat ≤ 0x0D) || octet.toNat = 0x20

/-- The first line of octets, with its end if it has one. -/
def firstLine : List UInt8 → List UInt8
  | [] => []
  | octet :: rest => if octet = lineEnd then [octet] else octet :: firstLine rest

def decodeLine (octets : List UInt8) : Except Fault Event := do
  Event.decode (String.ofList (← (Utf8.decode octets).mapError .utf8))

def encodeLine (line : String) : List UInt8 :=
  Utf8.encode line.toList ++ [lineEnd]

end LogFile

namespace DiskStore

def create (path : String) (clock : Ref .clock) : Act D (Ref .store) :=
  fun system =>
    (.ok system.stores.nextRef,
      { system with stores := system.stores.push (.disk (.ofText path) clock) })

/-- Makes the directories above a path. Those made before a failure stay. -/
def makeDirectories (path : Path) : Act D Unit := do
  let (files, failure) ← Act.read (·.files.makeDirectories path.parent)
  Act.update fun system => { system with files }
  match failure with
  | none => pure ()
  | some fault => Act.throw (.file fault)

def changeFiles (change : FileTree → Except FileFault FileTree) : Act D Unit := do
  let files ← Act.ofExcept ((change (← Act.read (·.files))).mapError .file)
  Act.update fun system => { system with files }

def touch (path : Path) : Act D Unit := do
  let made ← Act.attempt do
    makeDirectories path
    changeFiles (·.touch path)
  match made with
  | .ok () => pure ()
  | .error fault =>
    if (← Act.faultOf fault).family = .system then
      let detail ← Act.messageOf fault
      Act.throw (.storeWrite (.text path.text) (.text detail) (.int 0))
    else Act.rethrow fault

def appendEvent (path : Path) (clock : Ref .clock) (event : Ref .event) : Act D Unit := do
  LiveEvent.persist event clock
  let line ← LiveEvent.logLine event
  changeFiles (·.append path (LogFile.encodeLine line))
  LiveEvent.sealEvent event

/-- Appends events up to the first failure; answers how many were written and the
fault that stopped it. -/
def appendEvents (path : Path) (clock : Ref .clock) (written : Nat) :
    List (Ref .event) → Act D (Nat × Option (Ref .fault))
  | [] => pure (written, none)
  | event :: events => do
    match ← Act.attempt (appendEvent path clock event) with
    | .ok () => appendEvents path clock (written + 1) events
    | .error fault => pure (written, some fault)

/-- Opens the log for appending: afterwards the file is there. -/
def openLog (path : Path) : Act D Unit := do
  makeDirectories path
  changeFiles (·.append path [])

/-- The families of faults that a store reports as its own. -/
def wraps (family : Fault.Family) : Bool :=
  family = .value || family = .type || family = .system

/-- Appends events, each stamped with the clock's time. Lines written before a
failure stay in the log. -/
def append (path : Path) (clock : Ref .clock) (events : List (Ref .event)) : Act D Unit := do
  let (written, failure) ←
    match ← Act.attempt (openLog path) with
    | .ok () => appendEvents path clock 0 events
    | .error fault => pure (0, some fault)
  match failure with
  | none =>
    Act.logRecord storeLogger .debug s!"Stored {written} event(s) in {path.text}"
  | some fault =>
    if wraps (← Act.faultOf fault).family then
      let detail ← Act.messageOf fault
      Act.logRecord storeLogger .error
        s!"Store aborted after {written} event(s) in {path.text}: {detail}"
      Act.throw (.storeWrite (.text path.text) (.text detail) (.int written))
    else Act.rethrow fault

/-- Reads the line of the log that starts at an offset and has a number, if there
is one; a blank line describes no event. -/
def readLine (path : Path) (offset number : Nat) : Act D (List UInt8 × Option Event) := do
  let content ← Act.ofExcept (((← Act.read (·.files)).read path).mapError .file)
  let octets := LogFile.firstLine (content.drop offset)
  if octets.all LogFile.isBlankOctet then pure (octets, none)
  else
    match LogFile.decodeLine octets with
    | .ok event => pure (octets, some event)
    | .error fault =>
      if fault.family = .value then
        Act.throw (.storeRead (.text s!"{path.text}:{number}") (.text fault.message))
      else Act.throw fault

def replayLine {State : Type} (streamId : AnyText) (state : State)
    (step : State → Ref .event → Act D State) : Option Event → Act D State
  | none => pure state
  | some content =>
    if content.matchesStream streamId then do
      let event ← LiveEvent.create content
      LiveEvent.sealEvent event
      step state event
    else pure state

/-- Folds the events of the lines from an offset on, at most `lines` of them. -/
def replayFrom {State : Type} (path : Path) (streamId : AnyText)
    (step : State → Ref .event → Act D State) (state : State) (offset number : Nat) :
    Nat → Act D State
  | 0 => Act.halt .exhausted
  | lines + 1 => do
    let (octets, described) ← readLine path offset number
    if octets.isEmpty then pure state
    else do
      let state ← replayLine streamId state step described
      replayFrom path streamId step state (offset + octets.length) (number + 1) lines

/-- How many lines a replay may read that were not there when it began. -/
def growthAllowance : Nat := 100000

def replay {State : Type} (path : Path) (streamId : AnyText) (state : State)
    (step : State → Ref .event → Act D State) : Act D State := do
  match (← Act.read (·.files)).read path with
  | .error fault =>
    if (Fault.file fault).family = .system then
      Act.throw (.storeRead (.text path.text) (.text fault.message))
    else Act.throw (.file fault)
  | .ok content =>
    replayFrom path streamId step state 0 1 (content.length + growthAllowance)

end DiskStore

namespace Store

def append (handlers : Handlers D) (store : Ref .store) (events : List (Ref .event)) :
    Act D Unit := do
  Act.noteCall (.storeEvents store events)
  match ← Act.read (·.stores.get store) with
  | .memory _ => MemoryStore.append store events
  | .disk path clock => DiskStore.append path clock events
  | .foreign description => handlers.storeForeign description events

def replay {State : Type} (handlers : Handlers D) (store : Ref .store) (streamId : AnyText)
    (state : State) (step : State → Ref .event → Act D State) : Act D State := do
  match ← Act.read (·.stores.get store) with
  | .memory _ => MemoryStore.replay store streamId state step
  | .disk path _ => DiskStore.replay path streamId state step
  | .foreign description => handlers.replayForeign description streamId state step

def createForeign (description : D.Store) : Act D (Ref .store) :=
  fun system =>
    (.ok system.stores.nextRef,
      { system with stores := system.stores.push (.foreign description) })

end Store

end EventSourcing
