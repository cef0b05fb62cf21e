import EventSourcing.System.Basic

/-!
# Running actions

The laws of actions one after another. An action whose outcome on a system is known can
be taken off the front of a sequence; a sequence that ends with a value is the sequence
of two that do.
-/

set_option autoImplicit false

namespace EventSourcing

def Domain.bare : Domain :=
  { State := Unit, Factory := Empty, Script := Empty, Projection := Empty, Store := Empty
    faultNamed := fun _ _ => none }

def Handlers.bare : Handlers Domain.bare :=
  { construct := nofun, onEvent := nofun, onCommand := nofun, onProject := nofun
    storeForeign := nofun, replayForeign := nofun }

namespace Table

variable {kind : ObjectKind} {Item : Type}

theorem get_nextRef [Inhabited Item] (table : Table kind Item) :
    table.get table.nextRef = default := by
  simp only [get, nextRef, Array.getD_eq_getD_getElem?, Array.getElem?_eq_none (Nat.le_refl _),
    Option.getD_none]

/-- What holds of the objects that were made and of the default object holds of every object. -/
theorem get_of_all [Inhabited Item] {table : Table kind Item} {holds : Item → Prop}
    (made : ∀ item ∈ table.items, holds item) (new : holds default) (ref : Ref kind) :
    holds (table.get ref) := by
  rw [get, Array.getD_eq_getD_getElem?]
  cases known : table.items[ref.index]? with
  | none => exact new
  | some found => exact made found (Array.mem_of_getElem? known)

@[simp] theorem nextRef_push (table : Table kind Item) (item : Item) :
    (table.push item).nextRef.index = table.nextRef.index + 1 := by
  simp only [nextRef, push, Array.size_push]

theorem get_push_nextRef [Inhabited Item] (table : Table kind Item) (item : Item) :
    (table.push item).get table.nextRef = item :=
  (get_push _ _ _).trans (if_pos rfl)

theorem get_push_of_made [Inhabited Item] (table : Table kind Item) {ref : Ref kind}
    (made : ref.index < table.nextRef.index) (item : Item) :
    (table.push item).get ref = table.get ref := by
  refine (get_push _ _ _).trans (if_neg ?_)
  rintro rfl
  exact Nat.lt_irrefl _ made

theorem nextRef_set [Inhabited Item] (table : Table kind Item) {ref : Ref kind}
    (made : ref.index < table.nextRef.index) (item : Item) :
    (table.set ref item).nextRef = table.nextRef := by
  have inside : ref.index < table.items.size := made
  rw [set, dif_pos inside]
  simp only [nextRef, Array.size_set]

theorem set_set [Inhabited Item] (table : Table kind Item) {ref : Ref kind}
    (made : ref.index < table.nextRef.index) (first second : Item) :
    (table.set ref first).set ref second = table.set ref second := by
  have inside : ref.index < table.items.size := made
  have once : table.set ref first = ⟨table.items.set ref.index first inside⟩ := by
    rw [set, dif_pos inside]
  have still : ref.index < (table.items.set ref.index first inside).size := by
    rwa [Array.size_set]
  rw [once, set, dif_pos still, set, dif_pos inside]
  exact congrArg Table.mk (Array.set_set ..)

theorem nextRef_le_set [Inhabited Item] (table : Table kind Item) (ref : Ref kind) (item : Item) :
    table.nextRef.index ≤ (table.set ref item).nextRef.index := by
  rw [set]
  split
  · simp only [nextRef, Array.size_set, Nat.le_refl]
  · simp only [nextRef, Array.size_push, Array.size_append]
    omega

end Table

namespace Act

variable {D : Domain} {Result Next : Type}

theorem read_run (view : System D → Result) (system : System D) :
    read view system = (.ok (view system), system) :=
  rfl

/-- A run, from what it answers. -/
theorem run_of_answer {act : Act D Result} {system : System D} {answer : Except Halt Result}
    (answers : (act system).1 = answer) : act system = (answer, (act system).2) :=
  Prod.ext answers rfl

theorem bind_of_ok {act : Act D Result} {next : Result → Act D Next} {system after : System D}
    {result : Result} (ran : act system = (.ok result, after)) :
    (act >>= next) system = next result after := by
  simp only [bind, Act.bind, ran]

theorem bind_of_error {act : Act D Result} {next : Result → Act D Next}
    {system after : System D} {halt : Halt} (ran : act system = (.error halt, after)) :
    (act >>= next) system = (.error halt, after) := by
  simp only [bind, Act.bind, ran]

theorem bind_assoc {Last : Type} (act : Act D Result) (next : Result → Act D Next)
    (last : Next → Act D Last) :
    act >>= next >>= last = act >>= fun result => next result >>= last := by
  funext system
  simp only [bind, Act.bind]
  rcases act system with ⟨_ | _, after⟩ <;> rfl

theorem bind_eq_ok {act : Act D Result} {next : Result → Act D Next} {system after : System D}
    {result : Next} (ran : (act >>= next) system = (.ok result, after)) :
    ∃ first middle, act system = (.ok first, middle) ∧ next first middle = (.ok result, after) := by
  simp only [bind, Act.bind] at ran
  split at ran
  · rename_i first middle shown
    exact ⟨first, middle, shown, ran⟩
  · cases ran

theorem attempt_of_ok {act : Act D Result} {system after : System D} {result : Result}
    (ran : act system = (.ok result, after)) :
    attempt act system = (.ok (.ok result), after) := by
  simp only [attempt, ran]

theorem attempt_of_raised {act : Act D Result} {system after : System D} {fault : Ref .fault}
    (ran : act system = (.error (.raised fault), after)) :
    attempt act system = (.ok (.error fault), after) := by
  simp only [attempt, ran]

theorem attempt_of_unraised {act : Act D Result} {system after : System D} {halt : Halt}
    (ran : act system = (.error halt, after)) (unlike : ∀ fault, halt ≠ .raised fault) :
    attempt act system = (.error halt, after) := by
  cases halt with
  | raised fault => exact absurd rfl (unlike fault)
  | exhausted | unbound => simp only [attempt, ran]

/-- What follows an attempt is known from what follows each way in which it can fail. -/
theorem bind_attempt_of_error {act : Act D Result} {next : Except (Ref .fault) Result → Act D Next}
    {system after : System D} {halt : Halt} {motive : Except Halt Next × System D → Prop}
    (ran : act system = (.error halt, after)) (halted : ∀ halt, motive (.error halt, after))
    (raised : ∀ fault, motive (next (.error fault) after)) :
    motive ((attempt act >>= next) system) := by
  cases halt with
  | raised fault =>
    rw [bind_of_ok (attempt_of_raised ran)]
    exact raised fault
  | exhausted | unbound =>
    rw [bind_of_error (attempt_of_unraised ran (by simp))]
    exact halted _

theorem forEach_map {Item Other : Type} (act : Other → Act D Unit) (view : Item → Other)
    (items : List Item) :
    forEach act (items.map view) = forEach (fun item => act (view item)) items := by
  induction items with
  | nil => rfl
  | cons item items ih => rw [List.map_cons, forEach, forEach, ih]

theorem forEach_append {Item : Type} (act : Item → Act D Unit) (first rest : List Item) :
    forEach act (first ++ rest) = forEach act first >>= fun _ => forEach act rest := by
  induction first with
  | nil => rfl
  | cons item items ih =>
      rw [List.cons_append, forEach, forEach, ih, bind_assoc]

/-- A loop that does not come to its end stops at a first item. -/
theorem forEach_eq_error {Item : Type} {act : Item → Act D Unit} {items : List Item}
    {system after : System D} {halt : Halt}
    (ran : forEach act items system = (.error halt, after)) :
    ∃ first item rest middle, items = first ++ item :: rest ∧
      forEach act first system = (.ok (), middle) ∧ act item middle = (.error halt, after) := by
  induction items generalizing system with
  | nil => cases ran
  | cons item items ih =>
    rcases shown : act item system with ⟨stopped | _, middle⟩
    · rw [forEach, bind_of_error shown] at ran
      cases ran
      exact ⟨[], item, items, system, rfl, rfl, shown⟩
    · rw [forEach, bind_of_ok shown] at ran
      obtain ⟨first, other, rest, last, rfl, passed, stopped⟩ := ih ran
      refine ⟨item :: first, other, rest, last, rfl, ?_, stopped⟩
      rw [forEach, bind_of_ok shown, passed]

theorem forEach_of_error {Item : Type} {act : Item → Act D Unit} {first rest : List Item}
    {item : Item} {system middle after : System D} {halt : Halt}
    (passed : forEach act first system = (.ok (), middle))
    (stopped : act item middle = (.error halt, after)) :
    forEach act (first ++ item :: rest) system = (.error halt, after) := by
  rw [forEach_append, bind_of_ok passed, forEach, bind_of_error stopped]

theorem throw_run (fault : Fault) (system : System D) :
    (throw fault : Act D Result) system =
      (.error (.raised system.faults.nextRef),
        { system with faults := system.faults.push fault }) :=
  rfl

theorem raise_ne_ok (raise : Raise) (system after : System D) (result : Result) :
    (Act.raise raise : Act D Result) system ≠ (.ok result, after) := by
  intro ran
  cases raise with
  | fresh fault => cases ran
  | known fault => cases ran
  | named name =>
    obtain ⟨fault, middle, -, rest⟩ := bind_eq_ok ran
    cases rest

/-! ## What every outcome leaves alone -/

/-- A relation between a system and a later one that can be followed step by step. -/
class Frame (relation : System D → System D → Prop) : Prop where
  refl : ∀ system, relation system system
  trans : ∀ {before middle after}, relation before middle → relation middle after →
    relation before after

def Same {View : Type} (view : System D → View) (before after : System D) : Prop :=
  view after = view before

instance {View : Type} (view : System D → View) : Frame (Same view) where
  refl _ := rfl
  trans first second := Eq.trans second first

def Both (first second : System D → System D → Prop) (before after : System D) : Prop :=
  first before after ∧ second before after

instance (first second : System D → System D → Prop) [Frame first] [Frame second] :
    Frame (Both first second) where
  refl system := ⟨Frame.refl system, Frame.refl system⟩
  trans left right := ⟨Frame.trans left.1 right.1, Frame.trans left.2 right.2⟩

/-- What holds of the system before holds of the one after. -/
def Along (holds : System D → Prop) (before after : System D) : Prop :=
  holds before → holds after

instance (holds : System D → Prop) : Frame (Along holds) where
  refl _ := id
  trans first second := second ∘ first

/-- Where the property holds, it goes on to hold and the systems are related. -/
def Under (holds : System D → Prop) (relation : System D → System D → Prop)
    (before after : System D) : Prop :=
  holds before → holds after ∧ relation before after

instance (holds : System D → Prop) (relation : System D → System D → Prop) [Frame relation] :
    Frame (Under holds relation) where
  refl system known := ⟨known, Frame.refl system⟩
  trans first second known := by
    obtain ⟨middle, related⟩ := first known
    obtain ⟨after, relatedAfter⟩ := second middle
    exact ⟨after, Frame.trans related relatedAfter⟩

/-- However the action ends, the system that it leaves is related to the one before. -/
def Keeps (relation : System D → System D → Prop) (act : Act D Result) : Prop :=
  ∀ system, relation system (act system).2

section Keeping

variable {relation : System D → System D → Prop} [Frame relation]

theorem keeps_pure (result : Result) : Keeps relation (pure result : Act D Result) :=
  fun system => Frame.refl system

theorem keeps_read (view : System D → Result) : Keeps relation (read view) :=
  fun system => Frame.refl system

theorem keeps_halt (reason : Halt) : Keeps relation (halt reason : Act D Result) :=
  fun system => Frame.refl system

theorem Keeps.bind {act : Act D Result} {next : Result → Act D Next}
    (first : Keeps relation act) (second : ∀ result, Keeps relation (next result)) :
    Keeps relation (act >>= next) := by
  intro system
  have before := first system
  rcases shown : act system with ⟨halt | result, middle⟩
  · rw [bind_of_error shown]
    rwa [shown] at before
  · rw [bind_of_ok shown]
    rw [shown] at before
    exact Frame.trans before (second result middle)

omit [Frame relation] in
/-- An attempt leaves the system that what it attempts leaves. -/
theorem Keeps.attempt {act : Act D Result} (keeps : Keeps relation act) :
    Keeps relation (attempt act) := by
  intro system
  have kept := keeps system
  rcases ran : act system with ⟨halt | result, after⟩
  · rw [ran] at kept
    cases halt <;> simpa only [Act.attempt, ran] using kept
  · rw [ran] at kept
    rwa [attempt_of_ok ran]

theorem keeps_forEach {Item : Type} {act : Item → Act D Unit} {items : List Item}
    (each : ∀ item ∈ items, Keeps relation (act item)) : Keeps relation (forEach act items) := by
  induction items with
  | nil => exact keeps_pure ()
  | cons item items ih =>
      exact (each item (by simp)).bind fun _ => ih fun other member => each other (.tail _ member)

theorem keeps_throw (making : ∀ fault, Keeps relation (newFault fault)) (fault : Fault) :
    Keeps relation (throw fault : Act D Result) :=
  (making fault).bind fun ref => keeps_halt (.raised ref)

theorem keeps_raise (making : ∀ fault, Keeps relation (newFault fault)) (raise : Raise) :
    Keeps relation (Act.raise raise : Act D Result) := by
  cases raise with
  | fresh fault => exact keeps_throw making fault
  | known fault => exact keeps_halt (.raised fault)
  | named name =>
      refine Keeps.bind ((keeps_read _).bind fun known => ?_) fun fault => keeps_halt _
      split
      · exact keeps_pure _
      · exact keeps_halt _

theorem keeps_ofExcept (making : ∀ fault, Keeps relation (newFault fault))
    (computed : Except Fault Result) : Keeps relation (ofExcept computed : Act D Result) := by
  cases computed with
  | error fault => exact keeps_throw making fault
  | ok result => exact keeps_pure result

end Keeping

end Act

/-! ## What is raised -/

namespace Raise

variable {D : Domain}

/-- The object that is raised, if it exists already. -/
def existing? (system : System D) : Raise → Option (Ref .fault)
  | .fresh _ => none
  | .known fault => some fault
  | .named name => D.faultNamed system.domain name

def cause? (system : System D) : Raise → Option Fault
  | .fresh fault => some fault
  | raise => (raise.existing? system).map system.faults.get

theorem existing?_congr {system after : System D} (domain : after.domain = system.domain)
    (raise : Raise) : raise.existing? after = raise.existing? system := by
  cases raise <;> simp only [existing?, domain]

theorem cause?_congr {system after : System D} (faults : after.faults = system.faults)
    (domain : after.domain = system.domain) (raise : Raise) :
    raise.cause? after = raise.cause? system := by
  cases raise <;> simp only [cause?, existing?, faults, domain]

/-- Raising ends with an object whose cause is the one to be raised, the very object if it
exists already, and makes nothing but faults. -/
theorem raise_run {raise : Raise} {system : System D} {cause : Fault}
    (bound : raise.cause? system = some cause) :
    ∃ fault faults, (∀ Result : Type, (Act.raise raise : Act D Result) system =
        (.error (.raised fault), { system with faults })) ∧
      faults.get fault = cause ∧
      ∀ known, raise.existing? system = some known → fault = known := by
  cases raise with
  | fresh fault =>
      refine ⟨_, _, fun _ => rfl, ?_, fun known exists_ => (by cases exists_)⟩
      rw [Table.get_push_nextRef]
      exact Option.some.inj bound
  | known fault =>
      exact ⟨fault, system.faults, fun _ => rfl, Option.some.inj bound,
        fun known exists_ => Option.some.inj exists_⟩
  | named name =>
      cases found : D.faultNamed system.domain name with
      | none =>
          simp only [cause?, existing?, found, Option.map_none] at bound
          cases bound
      | some fault =>
          simp only [cause?, existing?, found, Option.map_some] at bound
          refine ⟨fault, system.faults, fun _ => ?_, Option.some.inj bound,
            fun known exists_ => ?_⟩
          · simp only [Act.raise, Act.faultNamed, bind, Act.bind, Act.read, found]
            rfl
          · rw [existing?, found] at exists_
            exact Option.some.inj exists_

end Raise

end EventSourcing
