import EventSourcing.Application.Basic

/-!
# Wiring from settings

Builds an application from settings: the kind of its store, the path of its log
and its name. The log of a store on disk is made at once, so that a new
application can read its history before it wrote any.
-/

set_option autoImplicit false

namespace EventSourcing.Wiring

variable {D : Domain}

/-- Settings by name; a setting that is not listed is absent, and of several for one
name the last one counts. -/
abbrev Settings := List (String × Datum)

def setting? (settings : Settings) (name : String) : Option Datum :=
  settings.reverse.lookup name

def storeSetting : String := "ESS_EVENT_STORE"

def logSetting : String := "ESS_EVENT_LOG"

def nameSetting : String := "ESS_APPLICATION_NAME"

def memoryBackend : String := "memory"

def diskBackend : String := "disk"

def defaultName : String := "ess"

def logger : String := "ess.app"

/-- The kind of the part that keeps a value from being looked up. A set is looked
up as if it could not change. -/
def unhashableKind? : Datum → Option String
  | .set _ => none
  | value => value.unhashableKind?

def pathText? : Datum → Except Fault String
  | .text value => (Utf8.wholeText? value).mapError .halves
  | .bytes _ => .error .octetsPath
  | other => .error (.notPath other.kindName)

def buildStore (settings : Settings) (clock : Ref .clock) : Act D (Ref .store) := do
  let backend := (setting? settings storeSetting).getD (.text memoryBackend)
  match unhashableKind? backend with
  | some kind => Act.throw (.access (.unhashable kind))
  | none =>
    if backend.text? = some (.whole memoryBackend) then MemoryStore.create
    else if backend.text? = some (.whole diskBackend) then do
      let log := (setting? settings logSetting).getD .null
      if log.isVoid then Act.throw .missingLog
      else do
        let path ← Act.ofExcept (pathText? log)
        let store ← DiskStore.create path clock
        DiskStore.touch (.ofText path)
        return store
    else Act.throw (.unknownStore backend)

def storeClass (foreignClass : D.Store → String) : Store D → String
  | .memory _ => "EventsInMemory"
  | .disk _ _ => "EventsOnDisk"
  | .foreign description => foreignClass description

def storePath? : Store D → Option String
  | .disk path _ => some path.text
  | _ => none

/-- Makes the application that the settings describe. A name given here goes
before the one in the settings. -/
def buildApplication (settings : Settings) (name : Option String) (clock : Option (Ref .clock)) :
    Act D (Ref .application) := do
  let clock ←
    match clock with
    | some clock => pure clock
    | none => Application.systemClock
  let name : Datum :=
    match name with
    | none | some "" => (setting? settings nameSetting).getD (.text defaultName)
    | some given => .text given
  let store ← buildStore settings clock
  let described ← Act.read (·.stores.get store)
  let className := storeClass (fun _ => "") described
  Act.logRecord logger .info s!"Application '{name.plain}' wired with {className}"
  Application.create name (some store) (some clock) none

end EventSourcing.Wiring
