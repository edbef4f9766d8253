import AirStation.Sensor.Event

/-!
Operations that may have no result: a number that leaves its word, a difference below zero, a place
outside a table, a clamp between reversed bounds, a division by nothing. The station computes as if
none of them ever failed. Its functions are stated again in the modules beside this one, under the
same names, with every such operation checked; each of them is proved to succeed with the value the
station computes.

An operation on nothing but constants of the text is left as it is. It fails on every run or on
none: a literal place in a vector, a shift by a literal, a clamp between literal bounds.
-/

namespace AirStation

inductive Failure where
  | overflow
  | underflow
  | outOfBounds
  | boundsReversed
  | divisionByZero
deriving DecidableEq, Repr

abbrev Checked (α : Type) : Type :=
  Except Failure α

namespace Checked

variable {α β : Type}

/-- A number that is stored in a word with room for the numbers below `size`. -/
def within (size n : Nat) : Checked Nat :=
  if n < size then .ok n else .error .overflow

/-- A number that is stored in a signed word of 32 bits. -/
def int32 (n : Int) : Checked Int :=
  if Single.leastInt32 ≤ n ∧ n ≤ Single.greatestInt32 then .ok n else .error .overflow

def minus [Sub α] [LE α] [DecidableLE α] (x y : α) : Checked α :=
  if y ≤ x then .ok (x - y) else .error .underflow

/-- The entry at a place of a table, which has to be there. -/
def lookUp (table : List α) (place : Nat) : Checked α :=
  match table[place]? with
  | some x => .ok x
  | none => .error .outOfBounds

/-- A part of a list, with nothing missing from it at the end. -/
def slice (l : List α) (start count : Nat) : Checked (List α) :=
  if start + count ≤ l.length then .ok ((l.drop start).take count) else .error .outOfBounds

/-- A number that is kept between two bounds, which must be in order. -/
def clamp [Min α] [Max α] [LE α] [DecidableLE α] (x lower upper : α) : Checked α :=
  if lower ≤ upper then .ok (max lower (min x upper)) else .error .boundsReversed

/-- A number that something is divided by, here always a positive one. -/
def divisor (n : Int) : Checked Int :=
  if 0 < n then .ok n else .error .divisionByZero

theorem within_of_lt {size n : Nat} (h : n < size) : within size n = .ok n :=
  if_pos h

theorem int32_of_mem {n : Int} (h : Single.leastInt32 ≤ n ∧ n ≤ Single.greatestInt32) :
    int32 n = .ok n :=
  if_pos h

theorem minus_of_le [Sub α] [LE α] [DecidableLE α] {x y : α} (h : y ≤ x) :
    minus x y = .ok (x - y) :=
  if_pos h

theorem clamp_of_le [Min α] [Max α] [LE α] [DecidableLE α] {x lower upper : α}
    (h : lower ≤ upper) : clamp x lower upper = .ok (max lower (min x upper)) :=
  if_pos h

theorem divisor_of_pos {n : Int} (h : 0 < n) : divisor n = .ok n :=
  if_pos h

theorem lookUp_of_lt {table : List α} {place : Nat} (h : place < table.length) :
    lookUp table place = .ok table[place] := by
  rw [lookUp, List.getElem?_eq_getElem h]

theorem lookUp_toList {n : Nat} (v : Vector α n) {place : Nat} (h : place < n) :
    lookUp v.toList place = .ok v[place] := by
  rw [lookUp_of_lt (by simpa using h), Vector.getElem_toList]

theorem slice_of_le {l : List α} {start count : Nat} (h : start + count ≤ l.length) :
    slice l start count = .ok ((l.drop start).take count) :=
  if_pos h

/-- Instants and durations are kept in 64 bits, as counts of microseconds. -/
def micros (t : Micros) : Checked Micros :=
  within 0x10000000000000000 t

theorem micros_of_lt {t : Micros} (h : t < 0x10000000000000000) : micros t = .ok t :=
  within_of_lt h

def ofMillis (milliseconds : Nat) : Checked Micros :=
  micros (milliseconds * 1000)

theorem ofMillis_eq {milliseconds : Nat} (h : milliseconds < 0x100000000) :
    ofMillis milliseconds = .ok (.ofMillis milliseconds) :=
  micros_of_lt (show milliseconds * 1000 < _ by omega)

theorem int32_truncate (x : Float32) : int32 (Single.truncate x) = .ok (Single.truncate x) := by
  apply int32_of_mem
  unfold Single.truncate Single.leastInt32 Single.greatestInt32
  split <;> omega

@[simp]
theorem ok_bind (x : α) (f : α → Checked β) : ((Except.ok x : Checked α) >>= f) = f x :=
  rfl

/-- Checks on each element of a list succeed together if each of them does. -/
theorem mapM_eq_ok {f : α → Checked β} {g : α → β} {l : List α}
    (h : ∀ x ∈ l, f x = .ok (g x)) : l.mapM f = .ok (l.map g) := by
  induction l with
  | nil => rfl
  | cons x rest ih =>
    rw [List.mapM_cons, h x List.mem_cons_self, ih fun y hy => h y (List.mem_cons_of_mem _ hy)]
    rfl

end Checked

/-- A step of a sensor that ends at its first failed check. What was done on the bus before that
stays done. -/
abbrev CheckedM : Type → Type :=
  ExceptT Failure SensorM

namespace CheckedM

variable {α β : Type}

/-- A step without anything to check, taken as it is. It cannot be ended by a check. -/
def perform (step : SensorM α) : CheckedM α :=
  ExceptT.lift step

/-- A check within a step, which does nothing on the bus and ends the step if it fails. -/
def check (result : Checked α) : CheckedM α :=
  ExceptT.mk (pure result)

theorem check_ok (x : α) : check (.ok x) = pure x :=
  rfl

theorem perform_bind (step : SensorM α) (next : α → SensorM β) :
    perform (step >>= next) = perform step >>= fun x => perform (next x) := by
  apply ExceptT.ext
  simp [perform]

theorem perform_map (f : α → β) (step : SensorM α) :
    perform (f <$> step) = f <$> perform step := by
  rw [map_eq_pure_bind, map_eq_pure_bind, perform_bind]
  rfl

theorem run_perform (step : SensorM α) : (perform step).run = Except.ok <$> step :=
  rfl

end CheckedM

end AirStation
