import AirStation.Proofs.Bus.History
import AirStation.Proofs.Station.Steps

/-!
The way of a climate from the HTU21D to the CCS811, as a trace of two kinds of moves: a reading is
stored, and a climate is told to the device by an acknowledged write. `HandOver` says which traces
the hand-over may leave behind together with the latest reading and the climate still pending; every
reading is told at most once, at once after it was stored, or replaced by a newer one.

The moves are read off what a station has done and not off its state. A stored reading is recognised
by its report and a told climate by its register and address, whoever has sent it; so a second
sender would show in the trace.
-/

namespace AirStation.Station

/-- What the CCS811 is told about a reading, as the four bytes of its environment register. -/
def climateOf (reading : Htu21d.Reading) : Vector UInt8 4 :=
  Ccs811.environmentBytes reading.temperature reading.humidity

/-- A reading is stored, or a climate is told. Other things that a station does are no moves. -/
inductive Move where
  | stored (reading : Htu21d.Reading)
  | told (payload : List UInt8)

namespace Move

def reading? : Move → Option Htu21d.Reading
  | .stored reading => some reading
  | .told _ => none

def payload? : Move → Option (List UInt8)
  | .stored _ => none
  | .told payload => some payload

end Move

/-- The HTU21D reports every reading it stores, and nobody else reports one. -/
def storedBy? : Event → Option Move
  | .htu21dMeasured reading => some (.stored reading)
  | _ => none

/-- A climate counts as told when a write to the environment register at the given address is
acknowledged, whoever sent it. -/
def move? (address : UInt8) : Action Event → Option Move
  | .reported event => storedBy? event
  | .exchanged ⟨target, .write (register :: payload), .ok _⟩ =>
    if target = address ∧ register = Ccs811.Register.environment then some (.told payload)
    else none
  | _ => none

def movesOf (address : UInt8) (actions : List (Action Event)) : List Move :=
  actions.filterMap (move? address)

section Moves

variable (address : UInt8)

@[simp] theorem movesOf_nil : movesOf address [] = [] := rfl

@[simp] theorem movesOf_cons (action : Action Event) (rest : List (Action Event)) :
    movesOf address (action :: rest) = (move? address action).toList ++ movesOf address rest := by
  unfold movesOf
  rw [List.filterMap_cons]
  cases move? address action <;> rfl

@[simp] theorem movesOf_append (first second : List (Action Event)) :
    movesOf address (first ++ second) = movesOf address first ++ movesOf address second :=
  List.filterMap_append

@[simp] theorem move?_reported (event : Event) :
    move? address (.reported event) = storedBy? event := rfl

@[simp] theorem move?_paused (milliseconds : Nat) :
    move? address (.paused milliseconds) = none := rfl

@[simp] theorem move?_received (target : UInt8) {count : Nat} (bytes : Vector UInt8 count) :
    move? address (.exchanged (.received target bytes)) = none := rfl

@[simp] theorem move?_fetched (target register : UInt8) {count : Nat}
    (bytes : Vector UInt8 count) :
    move? address (.exchanged (.fetched target register bytes)) = none := rfl

@[simp] theorem move?_wrote (target register : UInt8) (payload : List UInt8) :
    move? address (.exchanged (.wrote target (register :: payload))) =
      if target = address ∧ register = Ccs811.Register.environment then some (.told payload)
      else none := rfl

@[simp] theorem move?_failed (target : UInt8) (transfer : Transfer) (fault : Fault) :
    move? address (.exchanged (.failed target transfer fault)) = none := by
  cases transfer with
  | write bytes => cases bytes <;> rfl
  | read | writeRead => rfl

end Moves

def storedIn (trace : List Move) : List Htu21d.Reading :=
  trace.filterMap Move.reading?

def toldIn (trace : List Move) : List (List UInt8) :=
  trace.filterMap Move.payload?

theorem storedIn_append (trace more : List Move) :
    storedIn (trace ++ more) = storedIn trace ++ storedIn more :=
  List.filterMap_append

theorem toldIn_append (trace more : List Move) :
    toldIn (trace ++ more) = toldIn trace ++ toldIn more :=
  List.filterMap_append

@[simp] theorem storedIn_concat_stored (trace : List Move) (reading : Htu21d.Reading) :
    storedIn (trace ++ [.stored reading]) = storedIn trace ++ [reading] :=
  List.filterMap_append

@[simp] theorem storedIn_concat_told (trace : List Move) (payload : List UInt8) :
    storedIn (trace ++ [.told payload]) = storedIn trace :=
  List.filterMap_append.trans (List.append_nil _)

@[simp] theorem toldIn_concat_stored (trace : List Move) (reading : Htu21d.Reading) :
    toldIn (trace ++ [.stored reading]) = toldIn trace :=
  List.filterMap_append.trans (List.append_nil _)

@[simp] theorem toldIn_concat_told (trace : List Move) (payload : List UInt8) :
    toldIn (trace ++ [.told payload]) = toldIn trace ++ [payload] :=
  List.filterMap_append

theorem toldIn_elsewhere {address : UInt8} {actions : List (Action Event)}
    (h : ∀ action ∈ actions, action.To (· ≠ address)) : toldIn (movesOf address actions) = [] := by
  apply List.filterMap_eq_nil_iff.mpr
  intro move hmove
  obtain ⟨action, haction, hmove⟩ := List.mem_filterMap.mp hmove
  have hto := h action haction
  cases action with
  | exchanged e =>
    obtain ⟨target, transfer, response⟩ := e
    have hother : target ≠ address := hto
    unfold move? at hmove
    split at hmove <;> simp_all
  | paused milliseconds => nomatch hmove
  | reported event =>
    cases event with
    | htu21dMeasured reading =>
      obtain rfl : .stored reading = move := Option.some.inj hmove
      rfl
    | _ => nomatch hmove

/-- Where an element stands in a list with one more at the end. -/
theorem concat_eq_split {α : Type} {l before after : List α} {last x : α}
    (h : l ++ [last] = before ++ x :: after) :
    after = [] ∧ l = before ∧ last = x ∨
      ∃ rest, after = rest ++ [last] ∧ l = before ++ x :: rest := by
  rcases List.eq_nil_or_concat after with rfl | ⟨rest, y, rfl⟩
  · obtain ⟨hl, hlast⟩ := List.append_inj' h rfl
    exact .inl ⟨rfl, hl, (List.cons.inj hlast).1⟩
  · have hsplit : l ++ [last] = (before ++ x :: rest) ++ [y] := by simpa using h
    obtain ⟨hl, hlast⟩ := List.append_inj' hsplit rfl
    obtain rfl : last = y := (List.cons.inj hlast).1
    exact .inr ⟨rest, List.concat_eq_append, hl⟩

/-- A stored reading makes its climate pending, in place of an older one; telling it uses it up. -/
inductive HandOver : List Move → Option Htu21d.Reading → Option (Vector UInt8 4) → Prop where
  | nothing : HandOver [] none none
  | stored {trace : List Move} {latest : Option Htu21d.Reading}
      {pending : Option (Vector UInt8 4)} (h : HandOver trace latest pending)
      (reading : Htu21d.Reading) :
    HandOver (trace ++ [.stored reading]) (some reading) (some (climateOf reading))
  | told {trace : List Move} {latest : Option Htu21d.Reading} {climate : Vector UInt8 4}
      (h : HandOver trace latest (some climate)) :
    HandOver (trace ++ [.told climate.toList]) latest none

namespace HandOver

variable {trace : List Move} {latest : Option Htu21d.Reading} {pending : Option (Vector UInt8 4)}

/-- What is pending was stored by the move before, so no climate of an older reading is ever
told. -/
theorem just_stored {climate : Vector UInt8 4} (h : HandOver trace latest (some climate)) :
    ∃ earlier reading, trace = earlier ++ [.stored reading] ∧ latest = some reading ∧
      climate = climateOf reading := by
  cases h with
  | stored h reading => exact ⟨_, reading, rfl, rfl, rfl⟩

theorem latest_eq (h : HandOver trace latest pending) :
    latest = (storedIn trace).getLast? := by
  induction h with
  | nothing => rfl
  | stored h reading ih => simp
  | told h ih => simpa using ih

theorem pending_or_told (h : HandOver trace latest pending) {reading : Htu21d.Reading}
    (hlatest : latest = some reading) :
    pending = some (climateOf reading) ∨
      pending = none ∧ (toldIn trace).getLast? = some (climateOf reading).toList := by
  cases h with
  | nothing => exact absurd hlatest (by simp)
  | stored h newer =>
    left
    rw [Option.some.inj hlatest]
  | told h =>
    obtain ⟨earlier, newest, -, hnewest, rfl⟩ := h.just_stored
    have hreading : newest = reading := Option.some.inj (hnewest.symm.trans hlatest)
    right
    simp [hreading]

/-- Each climate told uses up one stored reading, and so does one that is pending. -/
theorem length_told_le (h : HandOver trace latest pending) :
    (toldIn trace).length + pending.toList.length ≤ (storedIn trace).length := by
  induction h with
  | nothing => simp [toldIn, storedIn]
  | stored h reading ih =>
    simp only [toldIn_concat_stored, storedIn_concat_stored, List.length_append,
      Option.toList_some, List.length_singleton]
    omega
  | told h ih => simpa using ih

theorem told_after_stored (h : HandOver trace latest pending) {before after : List Move}
    {payload : List UInt8} (htrace : trace = before ++ .told payload :: after) :
    ∃ earlier reading, before = earlier ++ [.stored reading] ∧
      payload = (climateOf reading).toList := by
  induction h generalizing after with
  | nothing => simp at htrace
  | stored h reading ih =>
    rcases concat_eq_split htrace with ⟨-, -, hlast⟩ | ⟨rest, -, hrest⟩
    · exact Move.noConfusion hlast
    · exact ih hrest
  | told h ih =>
    rcases concat_eq_split htrace with ⟨-, hbefore, hlast⟩ | ⟨rest, -, hrest⟩
    · obtain ⟨earlier, reading, hstored, -, hclimate⟩ := h.just_stored
      refine ⟨earlier, reading, hbefore.symm.trans hstored, ?_⟩
      rw [← Move.told.inj hlast, hclimate]
    · exact ih hrest

/-- A stored reading is the newest and pending, or it is told next, or a newer one comes next. -/
theorem told_or_replaced (h : HandOver trace latest pending) {before after : List Move}
    {reading : Htu21d.Reading} (htrace : trace = before ++ .stored reading :: after) :
    after = [] ∧ latest = some reading ∧ pending = some (climateOf reading) ∨
      (∃ later, after = .told (climateOf reading).toList :: later) ∨
        ∃ newer later, after = .stored newer :: later := by
  induction h generalizing after with
  | nothing => simp at htrace
  | stored h newer ih =>
    rcases concat_eq_split htrace with ⟨hafter, -, hlast⟩ | ⟨rest, hafter, hrest⟩
    · obtain rfl := Move.stored.inj hlast
      exact .inl ⟨hafter, rfl, rfl⟩
    · rcases ih hrest with ⟨rfl, -, -⟩ | ⟨later, rfl⟩ | ⟨other, later, rfl⟩
      · exact .inr (.inr ⟨newer, [], hafter⟩)
      · exact .inr (.inl ⟨_, hafter⟩)
      · exact .inr (.inr ⟨other, _, hafter⟩)
  | told h ih =>
    rcases concat_eq_split htrace with ⟨-, -, hlast⟩ | ⟨rest, hafter, hrest⟩
    · exact Move.noConfusion hlast
    · rcases ih hrest with ⟨rfl, -, hpending⟩ | ⟨later, rfl⟩ | ⟨other, later, rfl⟩
      · obtain rfl := Option.some.inj hpending
        exact .inr (.inl ⟨[], hafter⟩)
      · exact .inr (.inl ⟨_, hafter⟩)
      · exact .inr (.inr ⟨other, _, hafter⟩)

end HandOver

end AirStation.Station
