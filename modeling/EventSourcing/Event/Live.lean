import EventSourcing.Event.Record
import EventSourcing.System.Basic

/-!
# Live events

An event is filled by its builders until a store seals it. From then on every
builder and every assignment is refused, and the payload can only be read. The
seal covers the payload's own entries; mappings inside them stay as they are. An
assignment may also replace a builder by a value, which cannot be called, or all parts
at once.
-/

set_option autoImplicit false

namespace EventSourcing.LiveEvent

variable {D : Domain}

def data (system : System D) (event : LiveEvent) : Datum :=
  match event.payload with
  | .live mapping => .mapping (system.mappings.get mapping)
  | .own value => value

def contentIn (system : System D) (ref : Ref .event) : Event :=
  let event := system.events.get ref
  { name := event.name, streamId := event.streamId, id := event.id
    occurredOn := event.occurredOn, persistedAt := event.persistedAt
    payload := event.data system }

def content (event : Ref .event) : Act D Event :=
  Act.read (contentIn · event)

/-- A payload of a value: a mapping that can be changed, or the value itself. -/
def newPayload (value : Datum) : Act D Payload :=
  match value with
  | .mapping entries => fun system =>
    (.ok (.live system.mappings.nextRef),
      { system with mappings := system.mappings.push entries })
  | other => pure (.own other)

def create (content : Event) : Act D (Ref .event) := do
  let payload ← newPayload content.payload
  fun system =>
    let event : LiveEvent :=
      { name := content.name, streamId := content.streamId, id := content.id
        occurredOn := content.occurredOn, persistedAt := content.persistedAt, payload }
    (.ok system.events.nextRef, { system with events := system.events.push event })

inductive Assignment where
  | name (value : Datum)
  | streamId (value : Datum)
  | id (value : Datum)
  | occurredOn (value : Datum)
  | persistedAt (value : Datum)
  | payload (value : Datum)
  | sealing (value : Datum)
  | parts (entries : Entries)
  | replacement (builder : Builder) (value : Datum)
  | refused (part : String) (fault : Fault)
  /-- An assignment to a part that events do not have. -/
  | other (part : String)

def builderName : Builder → String
  | .forStream => "for_aggregate"
  | .add => "add"
  | .occur => "occur"
  | .persist => "persist"
  | .close => "seal"

def builders : List (String × Builder) :=
  [Builder.forStream, .add, .occur, .persist, .close].map fun builder =>
    (builderName builder, builder)

def Assignment.part : Assignment → String
  | .name _ => "name"
  | .streamId _ => "stream_id"
  | .id _ => "id"
  | .occurredOn _ => "occurred_on"
  | .persistedAt _ => "persisted_at"
  | .payload _ => "payload"
  | .sealing _ => "_sealed"
  | .parts _ => "__dict__"
  | .replacement builder _ => builderName builder
  | .refused part _ => part
  | .other part => part

/-- Why a value cannot be assigned to a part, for the part that is computed from
others and for those that every object has. -/
def refusal? (part : String) (value : Datum) : Option Fault :=
  let kind := value.qualifiedKindName
  match part with
  | "sealed" => some (.computedAttribute "Event" part)
  | "__class__" => some (.wrongAttribute part s!"a class, not '{kind}' object")
  | "__dict__" =>
    match value with
    | .mapping _ => none
    | _ => some (.wrongAttribute part s!"a dictionary, not a '{kind}'")
  | "__weakref__" => some (.readOnlyAttribute "Event" part)
  | _ => none

def Assignment.ofPart (part : String) (value : Datum) : Assignment :=
  match part with
  | "name" => .name value
  | "stream_id" => .streamId value
  | "id" => .id value
  | "occurred_on" => .occurredOn value
  | "persisted_at" => .persistedAt value
  | "payload" => .payload value
  | "_sealed" => .sealing value
  | _ =>
    match builders.lookup part, refusal? part value, value with
    | some builder, _, _ => .replacement builder value
    | none, some fault, _ => .refused part fault
    | none, none, .mapping entries => if part = "__dict__" then .parts entries else .other part
    | none, none, _ => .other part

def change (ref : Ref .event) (edit : LiveEvent → LiveEvent) : Act D Unit :=
  Act.update fun system =>
    { system with events := system.events.set ref (edit (system.events.get ref)) }

/-- An event of which all parts were assigned at once. A part that the entries do not
name is as in an event without contents; name and payload are then lacking. -/
def ofParts (entries : Entries) (payload : Payload) : LiveEvent :=
  let part? (name : String) : Option Datum := entries.get? (.text name)
  let orElse (name : String) (missing : Datum) : Datum := (part? name).getD missing
  { name := orElse "name" .null, streamId := orElse "stream_id" (.text "")
    id := orElse "id" (.text ""), occurredOn := orElse "occurred_on" .null
    persistedAt := orElse "persisted_at" .null, payload, sealing := orElse "_sealed" (.bool false)
    replaced := builders.filterMap fun (name, builder) => (part? name).map (builder, ·)
    lacking := ["name", "payload"].filter fun name => (part? name).isNone }

def Assignment.apply (ref : Ref .event) : Assignment → Act D Unit
  | .name value => change ref fun event =>
    { event with name := value, lacking := event.lacking.erase "name" }
  | .streamId value => change ref fun event => { event with streamId := value }
  | .id value => change ref fun event => { event with id := value }
  | .occurredOn value => change ref fun event => { event with occurredOn := value }
  | .persistedAt value => change ref fun event => { event with persistedAt := value }
  | .payload value => do
    let payload ← newPayload value
    change ref fun event =>
      { event with payload, lacking := event.lacking.erase "payload" }
  | .sealing value => change ref fun event => { event with sealing := value }
  | .parts entries => do
    let payload ← newPayload ((entries.get? (.text "payload")).getD .null)
    change ref fun _ => ofParts entries payload
  | .replacement builder value =>
    change ref fun event => { event with replaced := (builder, value) :: event.replaced }
  | .refused _ fault => Act.throw fault
  | .other _ => pure ()

def requirePart (ref : Ref .event) (part : String) : Act D Unit := do
  if (← Act.read (·.events.get ref)).lacking.contains part then
    Act.throw (.lacksAttribute "Event" part)

/-- The contents of an event of which none of some parts was left out. -/
def contentWith (parts : List String) (ref : Ref .event) : Act D Event := do
  Act.forEach (requirePart ref) parts
  content ref

def refuse (ref : Ref .event) (part : String) : Act D Unit := do
  requirePart ref "name"
  let event ← Act.read (·.events.get ref)
  Act.throw (.eventSealed event.name (.text part))

def assign (ref : Ref .event) (assignment : Assignment) : Act D Unit := do
  let event ← Act.read (·.events.get ref)
  if event.isSealed then refuse ref assignment.part else assignment.apply ref

def requireBuilder (ref : Ref .event) (builder : Builder) : Act D Unit := do
  match (← Act.read (·.events.get ref)).replaced.lookup builder with
  | none => pure ()
  | some value => Act.throw (.notBuilder value.qualifiedKindName)

def forStream (event : Ref .event) (streamId : Datum) : Act D Unit := do
  requireBuilder event .forStream
  assign event (.streamId streamId)

def now (clock : Ref .clock) : Act D Moment := do
  let (reading, after) ← Act.read fun system => (system.clocks.get clock).read
  Act.update fun system => { system with clocks := system.clocks.set clock after }
  match reading with
  | .ok moment => pure moment
  | .error fault => Act.raise fault

def occur (event : Ref .event) (clock : Ref .clock) : Act D Unit := do
  requireBuilder event .occur
  assign event (.occurredOn (.moment (← now clock)))

def persist (event : Ref .event) (clock : Ref .clock) : Act D Unit := do
  requireBuilder event .persist
  assign event (.persistedAt (.moment (← now clock)))

/-- Seals an event: its payload keeps the entries that it has now, as a mapping that
can only be read. A payload that is no mapping is made one, or the event stays
unsealed. A sealed event stays as it is. -/
def sealEvent (ref : Ref .event) : Act D Unit := do
  requireBuilder ref .close
  let event ← Act.read (·.events.get ref)
  if event.isSealed then pure ()
  else
    requirePart ref "payload"
    let content ← content ref
    let entries ← Act.ofExcept (content.payload.toEntries?.mapError .pairs)
    change ref fun event =>
      { event with payload := .own (.frozen entries), sealing := .bool true }

/-- Assigns to a key of the payload, or of the value inside it that a path of keys
leads to. Only the payload's own entries are closed by the seal. -/
def put (ref : Ref .event) (path : List Datum) (key value : Datum) : Act D Unit := do
  requirePart ref "payload"
  let content ← content ref
  let changed ← Act.ofExcept ((content.payload.assignAt key value path).mapError .access)
  match (← Act.read (·.events.get ref)).payload, changed with
  | .live mapping, .mapping entries =>
    Act.update fun system => { system with mappings := system.mappings.set mapping entries }
  | _, _ => change ref fun event => { event with payload := .own changed }

def add (ref : Ref .event) (name : Datum) (value : Datum) : Act D Unit := do
  requireBuilder ref .add
  let event ← Act.read (·.events.get ref)
  if event.isSealed then refuse ref ("payload[" ++ name.literal ++ "]")
  else put ref [] name value

def encode (event : Ref .event) : Act D AnyText := do
  Act.ofExcept (← contentWith ["payload", "name"] event).encode

def logLine (event : Ref .event) : Act D String := do
  Act.ofExcept (← contentWith ["payload", "name"] event).logLine

end EventSourcing.LiveEvent
