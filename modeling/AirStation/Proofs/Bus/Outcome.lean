import AirStation.Bus.Device

/-!
What a computation may do, whatever the bus answers. `Always` follows every answer at once, so a
fact about it is a fact about the run on each bus (`Always.run`). `Does` says which actions occur in
a computation at all, on the paths that a given bus never takes included.

The outcomes of a driver are proved once, as an `Always` whose condition is an inductive list of
cases, and everything else is read off that list. The four shapes of a transaction that occur have
names (`Exchange.wrote` and the like), with the equations that tell them apart.
-/

namespace AirStation

namespace Exchange

def wrote (address : UInt8) (bytes : List UInt8) : Exchange :=
  ⟨address, .write bytes, .ok (Vector.replicate 0 0)⟩

def received (address : UInt8) {count : Nat} (bytes : Vector UInt8 count) : Exchange :=
  ⟨address, .read count, .ok bytes⟩

/-- A read of a register, as one transaction, that was answered with these bytes. -/
def fetched (address register : UInt8) {count : Nat} (bytes : Vector UInt8 count) : Exchange :=
  ⟨address, .writeRead [register] count, .ok bytes⟩

/-- A transaction of any kind that was not acknowledged, for this reason. -/
def failed (address : UInt8) (transfer : Transfer) (fault : Fault) : Exchange :=
  ⟨address, transfer, .error fault⟩

@[simp] theorem address_wrote (address : UInt8) (bytes : List UInt8) :
    (wrote address bytes).address = address := rfl

@[simp] theorem address_received (address : UInt8) {count : Nat} (bytes : Vector UInt8 count) :
    (received address bytes).address = address := rfl

@[simp] theorem address_fetched (address register : UInt8) {count : Nat}
    (bytes : Vector UInt8 count) : (fetched address register bytes).address = address := rfl

@[simp] theorem address_failed (address : UInt8) (transfer : Transfer) (fault : Fault) :
    (failed address transfer fault).address = address := rfl

@[simp] theorem acknowledged_wrote (address : UInt8) (bytes : List UInt8) :
    (wrote address bytes).acknowledged = true := rfl

@[simp] theorem acknowledged_received (address : UInt8) {count : Nat}
    (bytes : Vector UInt8 count) : (received address bytes).acknowledged = true := rfl

@[simp] theorem acknowledged_fetched (address register : UInt8) {count : Nat}
    (bytes : Vector UInt8 count) : (fetched address register bytes).acknowledged = true := rfl

@[simp] theorem acknowledged_failed (address : UInt8) (transfer : Transfer) (fault : Fault) :
    (failed address transfer fault).acknowledged = false := rfl

@[simp] theorem received_inj (address : UInt8) {count : Nat} (bytes other : Vector UInt8 count) :
    received address bytes = received address other ↔ bytes = other := by
  constructor
  · intro h
    have hresponse := eq_of_heq (Exchange.mk.inj h).2.2
    exact Except.ok.inj hresponse
  · intro h
    rw [h]

@[simp] theorem fetched_inj (address register : UInt8) {count : Nat}
    (bytes other : Vector UInt8 count) :
    fetched address register bytes = fetched address register other ↔ bytes = other := by
  constructor
  · intro h
    have hresponse := eq_of_heq (Exchange.mk.inj h).2.2
    exact Except.ok.inj hresponse
  · intro h
    rw [h]

@[simp] theorem failed_inj (address other : UInt8) (transfer transfer' : Transfer)
    (fault fault' : Fault) :
    failed address transfer fault = failed other transfer' fault' ↔
      address = other ∧ transfer = transfer' ∧ fault = fault' := by
  constructor
  · intro h
    obtain ⟨haddress, htransfer, hresponse⟩ := Exchange.mk.inj h
    subst htransfer
    exact ⟨haddress, rfl, Except.error.inj (eq_of_heq hresponse)⟩
  · rintro ⟨rfl, rfl, rfl⟩
    rfl

theorem failed_ne_wrote (address other : UInt8) (transfer : Transfer) (fault : Fault)
    (written : List UInt8) : failed address transfer fault ≠ wrote other written := fun h =>
  Bool.noConfusion (congrArg acknowledged h)

theorem failed_ne_received (address other : UInt8) (transfer : Transfer) (fault : Fault)
    {count : Nat} (bytes : Vector UInt8 count) :
    failed address transfer fault ≠ received other bytes := fun h =>
  Bool.noConfusion (congrArg acknowledged h)

theorem received_ne_wrote (address other : UInt8) {count : Nat} (bytes : Vector UInt8 count)
    (written : List UInt8) : received address bytes ≠ wrote other written := fun h =>
  Transfer.noConfusion (congrArg transfer h)

theorem fetched_ne_wrote (address register other : UInt8) {count : Nat}
    (bytes : Vector UInt8 count) (written : List UInt8) :
    fetched address register bytes ≠ wrote other written := fun h =>
  Transfer.noConfusion (congrArg transfer h)

end Exchange

namespace Action

variable {ε : Type}

/-- If the action is an exchange, its address is of the given kind. Pauses and reports go to no
address. -/
def To (p : UInt8 → Prop) : Action ε → Prop
  | .exchanged e => p e.address
  | _ => True

@[simp] theorem to_exchanged (p : UInt8 → Prop) (e : Exchange) :
    (.exchanged e : Action ε).To p ↔ p e.address := Iff.rfl

@[simp] theorem to_paused (p : UInt8 → Prop) (milliseconds : Nat) :
    (.paused milliseconds : Action ε).To p := trivial

@[simp] theorem to_reported (p : UInt8 → Prop) (event : ε) :
    (.reported event : Action ε).To p := trivial

theorem To.mono {p q : UInt8 → Prop} {action : Action ε} (h : action.To p)
    (hpq : ∀ address, p address → q address) : action.To q := by
  cases action with
  | exchanged e => exact hpq _ h
  | paused | reported => trivial

@[simp] theorem exchange?_reported (event : ε) :
    (Action.reported event).exchange? = none := rfl

@[simp] theorem exchanges_exchanged (e : Exchange) (rest : List (Action ε)) :
    (.exchanged e :: rest).filterMap exchange? = e :: rest.filterMap exchange? := rfl

@[simp] theorem exchanges_paused (milliseconds : Nat) (rest : List (Action ε)) :
    (.paused milliseconds :: rest).filterMap exchange? = rest.filterMap exchange? := rfl

@[simp] theorem exchanges_reported (event : ε) (rest : List (Action ε)) :
    (.reported event :: rest).filterMap exchange? = rest.filterMap exchange? := rfl

theorem mem_exchanges {e : Exchange} {actions : List (Action ε)} :
    e ∈ actions.filterMap exchange? ↔ .exchanged e ∈ actions := by
  rw [List.mem_filterMap]
  constructor
  · rintro ⟨action, haction, hexchange⟩
    cases action with
    | exchanged e' =>
      obtain rfl := Option.some.inj hexchange
      exact haction
    | paused | reported => nomatch hexchange
  · intro he
    exact ⟨.exchanged e, he, rfl⟩

end Action

namespace BusM

variable {β ε α γ : Type}

/-- However the bus answers, the actions and the value that come out are as `post` says. Each answer
is followed by itself, so the condition may depend on all of them. -/
def Always : BusM ε α → (List (Action ε) → α → Prop) → Prop
  | .done value, post => post [] value
  | .exchange address transfer next, post =>
    ∀ r, (next r).Always fun actions => post (.exchanged ⟨address, transfer, r⟩ :: actions)
  | .pause milliseconds next, post =>
    next.Always fun actions => post (.paused milliseconds :: actions)
  | .report event next, post =>
    next.Always fun actions => post (.reported event :: actions)

/-- Every action that occurs on some path of the computation has the property, whichever path a bus
takes. -/
def Does (P : Action ε → Prop) : BusM ε α → Prop
  | .done _ => True
  | .exchange address transfer next =>
    ∀ r, P (.exchanged ⟨address, transfer, r⟩) ∧ (next r).Does P
  | .pause milliseconds next => P (.paused milliseconds) ∧ next.Does P
  | .report event next => P (.reported event) ∧ next.Does P

/-- What holds of every outcome holds of the run on a bus, which is one of them. -/
theorem Always.run [Bus β] {m : BusM ε α} {post : List (Action ε) → α → Prop}
    (h : m.Always post) (bus : β) : post (m.run bus).actions (m.run bus).value := by
  induction m generalizing post bus with
  | done value => exact h
  | exchange address transfer next ih => exact ih _ (h _) _
  | pause milliseconds next ih => exact ih h bus
  | report event next ih => exact ih h bus

theorem Always.of_forall (m : BusM ε α) {post : List (Action ε) → α → Prop}
    (h : ∀ actions value, post actions value) : m.Always post := by
  induction m generalizing post with
  | done value => exact h _ value
  | exchange address transfer next ih => exact fun r => ih r fun _ => h _
  | pause milliseconds next ih => exact ih fun _ => h _
  | report event next ih => exact ih fun _ => h _

theorem Always.mono {m : BusM ε α} {post post' : List (Action ε) → α → Prop}
    (h : m.Always post) (hpost : ∀ actions value, post actions value → post' actions value) :
    m.Always post' := by
  induction m generalizing post post' with
  | done value => exact hpost _ _ h
  | exchange address transfer next ih =>
    intro r
    exact ih r (h r) fun actions value => hpost _ value
  | pause milliseconds next ih => exact ih h fun actions value => hpost _ value
  | report event next ih => exact ih h fun actions value => hpost _ value

theorem Always.and {m : BusM ε α} {post post' : List (Action ε) → α → Prop}
    (h : m.Always post) (h' : m.Always post') :
    m.Always fun actions value => post actions value ∧ post' actions value := by
  induction m generalizing post post' with
  | done value => exact ⟨h, h'⟩
  | exchange address transfer next ih =>
    intro r
    exact ih r (h r) (h' r)
  | pause milliseconds next ih => exact ih h h'
  | report event next ih => exact ih h h'

/-- The outcomes of a sequence are those of its parts joined together, in both directions. -/
theorem always_bind (m : BusM ε α) (f : α → BusM ε γ) (post : List (Action ε) → γ → Prop) :
    (m >>= f).Always post ↔
      m.Always fun first value => (f value).Always fun second => post (first ++ second) := by
  change (m.bind f).Always post ↔ _
  induction m generalizing post with
  | done value => rfl
  | exchange address transfer next ih =>
    constructor
    · intro h r
      exact (ih r _).mp (h r)
    · intro h r
      exact (ih r _).mpr (h r)
  | pause milliseconds next ih => exact ih _
  | report event next ih => exact ih _

/-- The outcomes of the first part may be known before the second is looked at. -/
theorem Always.bind {m : BusM ε α} {f : α → BusM ε γ} {first : List (Action ε) → α → Prop}
    {post : List (Action ε) → γ → Prop} (hm : m.Always first)
    (hf : ∀ actions value, first actions value →
      (f value).Always fun later => post (actions ++ later)) :
    (m >>= f).Always post :=
  (always_bind m f post).mpr (hm.mono hf)

/-- When only the value counts, the first part may be anything, and so may what it does. -/
theorem Always.after (m : BusM ε α) {f : α → BusM ε γ} {post : γ → Prop}
    (hf : ∀ value, (f value).Always fun _ => post) : (m >>= f).Always fun _ => post :=
  (always_bind m f _).mpr (.of_forall m fun _ => hf)

@[simp] theorem always_pure (value : α) (post : List (Action ε) → α → Prop) :
    (pure value : BusM ε α).Always post ↔ post [] value := Iff.rfl

theorem always_map (f : α → γ) (m : BusM ε α) (post : List (Action ε) → γ → Prop) :
    (f <$> m).Always post ↔ m.Always fun actions value => post actions (f value) := by
  rw [map_eq_pure_bind, always_bind]
  simp

/-- Of a pair only the second part is kept, and there was a first that the condition may speak
of. -/
theorem Always.snd {m : BusM ε (α × γ)} {post : List (Action ε) → α × γ → Prop}
    (h : m.Always post) :
    (Prod.snd <$> m).Always fun actions second => ∃ first, post actions (first, second) :=
  (always_map _ _ _).mpr (h.mono fun _ value hpost => ⟨value.1, hpost⟩)

@[simp] theorem always_logAll (events : List ε) (post : List (Action ε) → Unit → Prop) :
    (logAll events).Always post ↔ post (events.map .reported) () := by
  induction events generalizing post with
  | nil => rfl
  | cons event rest ih => exact ih _

theorem Always.exists {m : BusM ε α} {post : List (Action ε) → α → Prop}
    (h : m.Always post) : ∃ actions value, post actions value := by
  induction m generalizing post with
  | done value => exact ⟨[], value, h⟩
  | exchange address transfer next ih =>
    obtain ⟨actions, value, hpost⟩ := ih _ (h (.error .bus))
    exact ⟨_, value, hpost⟩
  | pause milliseconds next ih =>
    obtain ⟨actions, value, hpost⟩ := ih h
    exact ⟨_, value, hpost⟩
  | report event next ih =>
    obtain ⟨actions, value, hpost⟩ := ih h
    exact ⟨_, value, hpost⟩

/-- A condition that does not depend on the outcome can be taken out, since there is always an
outcome. -/
theorem always_and_left (m : BusM ε α) (p : Prop) (post : List (Action ε) → α → Prop) :
    (m.Always fun actions value => p ∧ post actions value) ↔ p ∧ m.Always post := by
  constructor
  · intro h
    obtain ⟨_, _, hp, _⟩ := h.exists
    have hpost : m.Always post := h.mono fun _ _ hboth => hboth.2
    exact ⟨hp, hpost⟩
  · rintro ⟨hp, h⟩
    exact h.mono fun _ _ hpost => ⟨hp, hpost⟩

/-- Every path ends, so an action that occurs at all occurs in some outcome. A computation does what
all its outcomes do. -/
theorem does_iff_always (P : Action ε → Prop) (m : BusM ε α) :
    m.Does P ↔ m.Always fun actions _ => ∀ action ∈ actions, P action := by
  induction m with
  | done value => simp [Does, Always]
  | exchange address transfer next ih =>
    simp only [Does, Always, List.forall_mem_cons, always_and_left, ih]
  | pause milliseconds next ih =>
    simp only [Does, Always, List.forall_mem_cons, always_and_left, ih]
  | report event next ih =>
    simp only [Does, Always, List.forall_mem_cons, always_and_left, ih]

theorem Does.of_always {P : Action ε → Prop} {m : BusM ε α}
    {post : List (Action ε) → α → Prop} (h : m.Always post)
    (hP : ∀ actions value, post actions value → ∀ action ∈ actions, P action) : m.Does P :=
  (does_iff_always P m).mpr (h.mono hP)

theorem Does.mono {P Q : Action ε → Prop} {m : BusM ε α} (h : m.Does P)
    (hPQ : ∀ action, P action → Q action) : m.Does Q := by
  induction m with
  | done value => trivial
  | exchange address transfer next ih => exact fun r => ⟨hPQ _ (h r).1, ih r (h r).2⟩
  | pause milliseconds next ih => exact ⟨hPQ _ h.1, ih h.2⟩
  | report event next ih => exact ⟨hPQ _ h.1, ih h.2⟩

theorem Does.bind {P : Action ε → Prop} {m : BusM ε α} {f : α → BusM ε γ}
    (hm : m.Does P) (hf : ∀ value, (f value).Does P) : (m >>= f).Does P := by
  change (m.bind f).Does P
  induction m with
  | done value => exact hf value
  | exchange address transfer next ih => exact fun r => ⟨(hm r).1, ih r (hm r).2⟩
  | pause milliseconds next ih => exact ⟨hm.1, ih hm.2⟩
  | report event next ih => exact ⟨hm.1, ih hm.2⟩

/-- What follows may rely on what the first part can end with, and need not be known for other
values. -/
theorem Does.bind_always {P : Action ε → Prop} {Q : α → Prop} {m : BusM ε α} {f : α → BusM ε γ}
    (hm : m.Does P) (hvalue : m.Always fun _ value => Q value)
    (hf : ∀ value, Q value → (f value).Does P) : (m >>= f).Does P := by
  rw [does_iff_always] at hm ⊢
  apply (hm.and hvalue).bind
  intro actions value hfirst
  have hlater := (does_iff_always P _).mp (hf value hfirst.2)
  exact hlater.mono fun _ _ hmem => List.forall_mem_append.mpr ⟨hfirst.1, hmem⟩

/-- A part that goes to one address, followed by what may go there as well as elsewhere. -/
theorem Does.to_bind {address : UInt8} {p : UInt8 → Prop} {m : BusM ε α} {f : α → BusM ε γ}
    (hm : m.Does (·.To (· = address))) (haddress : p address)
    (hf : ∀ value, (f value).Does (·.To p)) : (m >>= f).Does (·.To p) := by
  apply Does.bind _ hf
  apply hm.mono
  intro action haction
  apply haction.mono
  rintro _ rfl
  exact haddress

theorem does_logAll {P : Action ε → Prop} {events : List ε}
    (h : ∀ event ∈ events, P (.reported event)) : (logAll events).Does P := by
  induction events with
  | nil => trivial
  | cons event rest ih =>
    obtain ⟨hevent, hrest⟩ := List.forall_mem_cons.mp h
    exact ⟨hevent, ih hrest⟩

end BusM

namespace Device

open BusM

variable {ε : Type}

/-- A write is acknowledged, or fails for some reason; there is no third outcome. -/
theorem always_write (address : UInt8) (bytes : List UInt8)
    (post : List (Action ε) → Except Fault Unit → Prop) :
    (write address bytes).Always post ↔
      post [.exchanged (.wrote address bytes)] (.ok ()) ∧
        ∀ fault, post [.exchanged (.failed address (.write bytes) fault)] (.error fault) := by
  constructor
  · intro h
    exact ⟨h (.ok (Vector.replicate 0 0)), fun fault => h (.error fault)⟩
  · rintro ⟨hok, hfault⟩ (fault | answer)
    · exact hfault fault
    · obtain rfl : answer = Vector.replicate 0 0 := Vector.eq_empty
      exact hok

/-- A bare read brings any bytes of the right number, or fails for some reason. -/
theorem always_read (address : UInt8) (count : Nat)
    (post : List (Action ε) → Except Fault (Vector UInt8 count) → Prop) :
    (read address count).Always post ↔
      (∀ bytes, post [.exchanged (.received address bytes)] (.ok bytes)) ∧
        ∀ fault, post [.exchanged (.failed address (.read count) fault)] (.error fault) := by
  constructor
  · intro h
    exact ⟨fun bytes => h (.ok bytes), fun fault => h (.error fault)⟩
  · rintro ⟨hok, hfault⟩ (fault | answer)
    · exact hfault fault
    · exact hok answer

/-- A read of a register brings any bytes of the right number, or fails for some reason, in a single
transaction. -/
theorem always_readRegister (address register : UInt8) (count : Nat)
    (post : List (Action ε) → Except Fault (Vector UInt8 count) → Prop) :
    (readRegister address register count).Always post ↔
      (∀ bytes, post [.exchanged (.fetched address register bytes)] (.ok bytes)) ∧
        ∀ fault, post [.exchanged (.failed address (.writeRead [register] count) fault)]
          (.error fault) := by
  constructor
  · intro h
    exact ⟨fun bytes => h (.ok bytes), fun fault => h (.error fault)⟩
  · rintro ⟨hok, hfault⟩ (fault | answer)
    · exact hfault fault
    · exact hok answer

theorem always_readByte (address register : UInt8)
    (post : List (Action ε) → Except Fault UInt8 → Prop) :
    (readByte address register).Always post ↔
      (∀ bytes : Vector UInt8 1,
        post [.exchanged (.fetched address register bytes)] (.ok (bytes.get 0))) ∧
        ∀ fault, post [.exchanged (.failed address (.writeRead [register] 1) fault)]
          (.error fault) := by
  rw [readByte, always_bind, always_readRegister]
  rfl

/-- A block that fits the frame is one plain write of the register and the payload. The blocks of
the drivers all fit. -/
theorem writeBlock_eq_write {payload : List UInt8} (hpayload : payload.length ≤ maxBlockPayload)
    (address register : UInt8) :
    (writeBlock address register payload : BusM ε _) = write address (register :: payload) :=
  if_pos hpayload

end Device

end AirStation
