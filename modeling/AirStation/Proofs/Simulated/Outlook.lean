import AirStation.Proofs.Simulated.Session
import Mathlib.Algebra.BigOperators.Group.Finset.Basic
import Mathlib.Algebra.Order.BigOperators.Group.Multiset
import Mathlib.Data.FinEnum

/-!
What an address of the simulated bus has before it, told from the past alone. The bus keeps one list
of failures and one of offline addresses for everybody; here every address has a number and a flag
of its own, moved by nothing but what concerns it (`Outlook`). The same is said by naming the
attempts that are to fail: a request for a failure claims the first attempt at its address that is
still to come and not claimed yet (`Ledger`). The outstanding failures are then the claims on what
comes next (`Ledger.mem_claimed_iff`).
-/

namespace AirStation

/-- A transaction that somebody starts, whether or not anything comes of it. -/
structure Attempt where
  address : UInt8
  transfer : Transfer

def isAttempt : Turn Attempt → Bool
  | .call _ => true
  | .disturb _ => false

/-- What an address can have to do with a turn: an attempt there, a request for a failure, or a
switch. -/
inductive Concern where
  | attempt
  | failure
  | switch (offline : Bool)
deriving DecidableEq

def concern? (address : UInt8) : Turn Attempt → Option Concern
  | .call attempt => if address = attempt.address then some .attempt else none
  | .disturb (.failNext target) => if address = target then some .failure else none
  | .disturb (.setOffline target offline) =>
    if address = target then some (.switch offline) else none
  | .disturb _ => none

def concerns (address : UInt8) (turns : List (Turn Attempt)) : List Concern :=
  turns.filterMap (concern? address)

theorem concerns_concat (address : UInt8) (turns : List (Turn Attempt)) (t : Turn Attempt) :
    concerns address (turns ++ [t]) = concerns address turns ++ (concern? address t).toList := by
  rw [concerns, List.filterMap_append, ← concerns]
  cases h : concern? address t <;> simp [h]

theorem concerns_split {address : UInt8} {t : Turn Attempt} {c : Concern}
    (h : concern? address t = some c) (past rest : List (Turn Attempt)) :
    concerns address (past ++ t :: rest) = concerns address past ++ c :: concerns address rest := by
  rw [concerns, List.filterMap_append, List.filterMap_cons_some h, ← concerns, ← concerns]

/-- What is to come at one address, as far as faults go. -/
structure Outlook where
  /-- Outstanding injected failures. -/
  failures : Nat
  offline : Bool

namespace Outlook

/-- Every attempt uses up a failure, while there is one, and each request adds one. A switch does
not touch the failures. -/
def after (o : Outlook) : Concern → Outlook
  | .attempt => { o with failures := o.failures - 1 }
  | .failure => { o with failures := o.failures + 1 }
  | .switch offline => { o with offline }

def of (own : List Concern) : Outlook :=
  own.foldl after ⟨0, false⟩

theorem of_concat (own : List Concern) (c : Concern) : of (own ++ [c]) = (of own).after c :=
  List.foldl_concat _ _ _ _

theorem offline_foldl {rest : List Concern} (h : ∀ offline, .switch offline ∉ rest) (o : Outlook) :
    (rest.foldl after o).offline = o.offline := by
  induction rest generalizing o with
  | nil => rfl
  | cons c rest ih =>
    have hrest : ∀ offline, .switch offline ∉ rest := fun offline hmem =>
      h offline (List.mem_cons_of_mem c hmem)
    rw [List.foldl_cons, ih hrest]
    cases c with
    | attempt | failure => rfl
    | switch offline => exact absurd List.mem_cons_self (h offline)

theorem offline_of_last (past : List Concern) (offline : Bool) {rest : List Concern}
    (h : ∀ later, .switch later ∉ rest) :
    (of (past ++ .switch offline :: rest)).offline = offline := by
  rw [of, List.foldl_append, List.foldl_cons]
  exact offline_foldl h _

end Outlook

/-- What the turns have brought upon the address, told from those turns alone that concern it. -/
def outlook (address : UInt8) (turns : List (Turn Attempt)) : Outlook :=
  .of (concerns address turns)

section Turns

variable (address : UInt8) (turns : List (Turn Attempt))

theorem outlook_concat (t : Turn Attempt) :
    outlook address (turns ++ [t]) =
      (concern? address t).elim (outlook address turns) (outlook address turns).after := by
  rw [outlook, concerns_concat]
  cases concern? address t with
  | none => exact congrArg Outlook.of (List.append_nil _)
  | some c => exact Outlook.of_concat _ c

theorem outlook_call (attempt : Attempt) :
    outlook address (turns ++ [.call attempt]) =
      { outlook address turns with
        failures := (outlook address turns).failures -
          if address = attempt.address then 1 else 0 } := by
  rw [outlook_concat, concern?]
  split <;> rfl

theorem outlook_failNext (target : UInt8) :
    outlook address (turns ++ [.disturb (.failNext target)]) =
      { outlook address turns with
        failures := (outlook address turns).failures + if address = target then 1 else 0 } := by
  rw [outlook_concat, concern?]
  split <;> rfl

theorem outlook_setOffline (target : UInt8) (offline : Bool) :
    outlook address (turns ++ [.disturb (.setOffline target offline)]) =
      { outlook address turns with
        offline := if address = target then offline else (outlook address turns).offline } := by
  rw [outlook_concat, concern?]
  split <;> rfl

end Turns

/-- What is outstanding and what is offline, over all addresses, fits the lists of the bus. Beyond
its room a list would drop what is added to it. -/
structure WithinLimits (turns : List (Turn Attempt)) : Prop where
  failures : ∑ address : UInt8, (outlook address turns).failures ≤ SimulatedBus.maxPendingFailures
  offline : (Finset.univ.filter fun address : UInt8 => (outlook address turns).offline).card ≤
    SimulatedBus.maxOffline

instance (turns : List (Turn Attempt)) : Decidable (WithinLimits turns) :=
  decidable_of_iff (_ ∧ _) ⟨fun h => ⟨h.1, h.2⟩, fun h => ⟨h.1, h.2⟩⟩

/-- At no time within the turns is there more than the lists have room for. -/
def Roomy (turns : List (Turn Attempt)) : Prop :=
  ∀ past ∈ turns.inits, WithinLimits past

instance (turns : List (Turn Attempt)) : Decidable (Roomy turns) :=
  inferInstanceAs (Decidable (∀ past ∈ turns.inits, WithinLimits past))

theorem Roomy.withinLimits {turns : List (Turn Attempt)} (h : Roomy turns) : WithinLimits turns :=
  h turns ((List.mem_inits _ _).mpr (List.prefix_refl turns))

theorem WithinLimits.length_failures {turns : List (Turn Attempt)} (h : WithinLimits turns)
    {failures : List UInt8} (hcount : ∀ a, failures.count a = (outlook a turns).failures) :
    failures.length ≤ SimulatedBus.maxPendingFailures := by
  have hsum : ∑ address, (failures : Multiset UInt8).count address = failures.length :=
    Multiset.sum_count_eq_card fun a _ => Finset.mem_univ a
  simp only [Multiset.coe_count, hcount] at hsum
  exact hsum ▸ h.failures

theorem WithinLimits.length_offline {turns : List (Turn Attempt)} (h : WithinLimits turns)
    {offline : List UInt8} (hdistinct : offline.Nodup)
    (hmem : ∀ a, a ∈ offline ↔ (outlook a turns).offline = true) :
    offline.length ≤ SimulatedBus.maxOffline := by
  have hset : offline.toFinset =
      Finset.univ.filter fun address : UInt8 => (outlook address turns).offline := by
    ext address
    simp [hmem]
  rw [← List.toFinset_card_of_nodup hdistinct, hset]
  exact h.offline

theorem Roomy.of_append {past rest : List (Turn Attempt)} (h : Roomy (past ++ rest)) :
    Roomy past := by
  intro before hbefore
  have hinit : before <+: past := (List.mem_inits _ _).mp hbefore
  exact h before ((List.mem_inits _ _).mpr (hinit.trans (List.prefix_append past rest)))

/-- The attempts at one address by their numbers, and which of them are to fail. -/
structure Ledger where
  /-- Attempts made so far. -/
  attempts : Nat
  /-- The numbers of the attempts that are claimed, in the order of the requests. -/
  claimed : List Nat

namespace Ledger

theorem exists_unclaimed (claimed : List Nat) (attempts : Nat) :
    ∃ n, attempts ≤ n ∧ n ∉ claimed := by
  obtain ⟨n, hn⟩ := Infinite.exists_notMem_finset (Finset.range attempts ∪ claimed.toFinset)
  rw [Finset.mem_union, not_or, Finset.mem_range, List.mem_toFinset] at hn
  exact ⟨n, Nat.not_lt.mp hn.1, hn.2⟩

/-- The first attempt to come that is not claimed. There always is one, as the claims are finitely
many. -/
def nextUnclaimed (l : Ledger) : Nat :=
  Nat.find (exists_unclaimed l.claimed l.attempts)

def after (l : Ledger) : Concern → Ledger
  | .attempt => { l with attempts := l.attempts + 1 }
  | .failure => { l with claimed := l.claimed ++ [l.nextUnclaimed] }
  | .switch _ => l

def of (own : List Concern) : Ledger :=
  own.foldl after ⟨0, []⟩

theorem of_concat (own : List Concern) (c : Concern) : of (own ++ [c]) = (of own).after c :=
  List.foldl_concat _ _ _ _

variable (l : Ledger)

theorem attempts_le_nextUnclaimed : l.attempts ≤ l.nextUnclaimed :=
  (Nat.find_spec (exists_unclaimed l.claimed l.attempts)).1

theorem nextUnclaimed_not_mem : l.nextUnclaimed ∉ l.claimed :=
  (Nat.find_spec (exists_unclaimed l.claimed l.attempts)).2

variable {l}

/-- Where the claims on what comes next are the first `failures` attempts, a new claim follows right
behind them. -/
theorem nextUnclaimed_eq {failures : Nat}
    (h : ∀ m, l.attempts ≤ m → (m ∈ l.claimed ↔ m < l.attempts + failures)) :
    l.nextUnclaimed = l.attempts + failures := by
  apply Nat.le_antisymm
  · refine Nat.find_min' _ ⟨Nat.le_add_right _ _, fun hmem => ?_⟩
    exact Nat.lt_irrefl _ ((h _ (Nat.le_add_right _ _)).mp hmem)
  · have hfree := l.nextUnclaimed_not_mem
    rw [h _ l.attempts_le_nextUnclaimed] at hfree
    exact Nat.not_lt.mp hfree

/-- Of the attempts to come, as many are claimed as there are failures outstanding, and these are
the next ones. -/
theorem mem_claimed_iff (own : List Concern) {m : Nat} (hm : (of own).attempts ≤ m) :
    m ∈ (of own).claimed ↔ m < (of own).attempts + (Outlook.of own).failures := by
  induction own using List.reverseRecOn generalizing m with
  | nil => exact iff_of_false List.not_mem_nil (Nat.not_lt_zero m)
  | append_singleton own c ih =>
    rw [of_concat] at hm ⊢
    rw [Outlook.of_concat]
    cases c with
    | attempt =>
      have hlater : (of own).attempts + 1 ≤ m := hm
      refine (ih (Nat.le_of_succ_le hlater)).trans ?_
      simp only [after, Outlook.after]
      omega
    | failure =>
      have hnext := nextUnclaimed_eq fun m hm => ih hm
      simp only [after, Outlook.after, List.mem_append, List.mem_singleton, ih hm, hnext]
      omega
    | switch offline => exact ih hm

/-- What comes later claims nothing of the past, so it is settled whether an attempt was claimed
once it has been made. -/
theorem mem_claimed_foldl (rest : List Concern) {n : Nat} (hn : n < l.attempts) :
    n ∈ (rest.foldl after l).claimed ↔ n ∈ l.claimed := by
  induction rest generalizing l with
  | nil => exact Iff.rfl
  | cons c rest ih =>
    rw [List.foldl_cons]
    cases c with
    | attempt => exact ih (Nat.lt_succ_of_lt hn)
    | failure =>
      have hlater : n ≠ l.nextUnclaimed :=
        Nat.ne_of_lt (Nat.lt_of_lt_of_le hn l.attempts_le_nextUnclaimed)
      have hkept : n < (l.after .failure).attempts := hn
      refine (ih hkept).trans ?_
      simp only [after, List.mem_append, List.mem_singleton, hlater, or_false]
    | switch offline => exact ih hn

theorem attempts_of (own : List Concern) : (of own).attempts = own.count .attempt := by
  induction own using List.reverseRecOn with
  | nil => rfl
  | append_singleton own c ih =>
    rw [of_concat, List.count_append, ← ih]
    cases c <;> rfl

theorem length_claimed (own : List Concern) : (of own).claimed.length = own.count .failure := by
  induction own using List.reverseRecOn with
  | nil => rfl
  | append_singleton own c ih =>
    rw [of_concat, List.count_append, ← ih]
    cases c with
    | failure => exact List.length_append
    | attempt | switch => rfl

theorem nodup_claimed (own : List Concern) : (of own).claimed.Nodup := by
  induction own using List.reverseRecOn with
  | nil => exact List.nodup_nil
  | append_singleton own c ih =>
    rw [of_concat]
    cases c with
    | failure =>
      have hdistinct := (List.nodup_concat _ _).mpr ⟨(of own).nextUnclaimed_not_mem, ih⟩
      rwa [List.concat_eq_append] at hdistinct
    | attempt | switch => exact ih

/-- An attempt is claimed, in the end, exactly when a failure is outstanding as it is made. -/
theorem claims_attempt_iff (past rest : List Concern) :
    past.count .attempt ∈ (of (past ++ .attempt :: rest)).claimed ↔
      0 < (Outlook.of past).failures := by
  have hmade : past.count .attempt < (of (past ++ [.attempt])).attempts := by
    rw [attempts_of, List.count_append]
    exact Nat.lt_succ_self _
  have hlater := mem_claimed_foldl rest hmade
  have hsplit : of (past ++ .attempt :: rest) = rest.foldl after (of (past ++ [.attempt])) := by
    rw [of, of, ← List.foldl_append, List.append_assoc]
    rfl
  rw [hsplit, hlater, of_concat, ← attempts_of]
  refine (mem_claimed_iff past (Nat.le_refl _)).trans ?_
  omega

end Ledger

def ledger (address : UInt8) (turns : List (Turn Attempt)) : Ledger :=
  .of (concerns address turns)

end AirStation
