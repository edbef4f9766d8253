import AirStation.Proofs.Simulated.Outlook
import AirStation.Proofs.Simulated.Vacant

/-!
Faults of the simulated bus are exact for each address. The bus keeps the failures of all addresses
in one short list, and a failure that is used up is replaced by the last one, so the entries of the
other addresses change places. How often an address occurs does not depend on places: the list is a
count for each address, and while there is room every count is what the address has before it
(`Tracks`). An attempt then fails for a failure of its own, for being offline or for want of a
device, and for nothing else (`faults_are_exact`).
-/

namespace AirStation.SimulatedBus

/-- The devices answer, and what is asked of them may change them. A turn is an attempt or a
disturbance, and this is what the bus makes of it. -/
def meet (b : SimulatedBus) : Turn Attempt → SimulatedBus
  | .call attempt => (Bus.transact b attempt.address attempt.transfer).2
  | .disturb d => b.disturb d

def meetAll (b : SimulatedBus) (turns : List (Turn Attempt)) : SimulatedBus :=
  turns.foldl meet b

/-- The attempt, if it came next, would be answered by an error of any kind. -/
def Fails (b : SimulatedBus) (attempt : Attempt) : Prop :=
  ∃ fault, (Bus.transact b attempt.address attempt.transfer).1 = .error fault

theorem meetAll_concat (b : SimulatedBus) (turns : List (Turn Attempt)) (t : Turn Attempt) :
    b.meetAll (turns ++ [t]) = (b.meetAll turns).meet t :=
  List.foldl_concat _ _ _ _

theorem useFailure_perm {failures : List UInt8} {address : UInt8} (h : address ∈ failures) :
    (useFailure failures address).Perm (failures.erase address) := by
  obtain ⟨front, last, rfl⟩ :=
    (List.eq_nil_or_concat' failures).resolve_left (List.ne_nil_of_mem h)
  rw [useFailure, List.getLast?_concat]
  dsimp only
  -- The last entry fills the place that becomes free, unless it is the one that is used up.
  by_cases hfront : address ∈ front
  · have hplace : front.idxOf address < front.length := List.idxOf_lt_length_iff.mpr hfront
    rw [List.idxOf_append_of_mem hfront, List.set_append_left _ _ hplace, List.dropLast_concat,
      List.erase_append_left _ hfront, ← List.eraseIdx_idxOf_eq_erase]
    exact (List.set_perm_cons_eraseIdx hplace last).trans (List.perm_append_singleton _ _).symm
  · have hlast : address = last := by simpa [hfront] using h
    subst hlast
    rw [List.erase_append_right _ hfront, List.idxOf_append_of_notMem hfront]
    simp

theorem count_useFailure {failures : List UInt8} {address : UInt8} (h : address ∈ failures)
    (other : UInt8) :
    (useFailure failures address).count other =
      failures.count other - if other = address then 1 else 0 := by
  rw [(useFailure_perm h).count_eq, List.count_erase]
  simp only [beq_iff_eq, @eq_comm _ other]

def attached (b : SimulatedBus) : List UInt8 :=
  (b.htu21d.map fun _ => 0x40).toList ++ (b.ccs811.map (·.address)).toList ++
    (b.bme68x.map (·.address)).toList

variable {b : SimulatedBus}

theorem mem_attached {address : UInt8} :
    address ∈ b.attached ↔ (∃ m, b.htu21d = some m ∧ address = 0x40) ∨
      (∃ m, b.ccs811 = some m ∧ m.address = address) ∨
      ∃ m, b.bme68x = some m ∧ m.address = address := by
  simp [attached, eq_comm]

theorem vacant_iff {address : UInt8} : b.Vacant address ↔ address ∉ b.attached := by
  rw [mem_attached]
  constructor
  · rintro ⟨hhtu, hccs, hbme⟩ (⟨m, hm, haddress⟩ | ⟨m, hm, haddress⟩ | ⟨m, hm, haddress⟩)
    · exact Option.some_ne_none m (hm.symm.trans (hhtu haddress))
    · exact hccs m hm haddress
    · exact hbme m hm haddress
  · intro h
    rw [not_or, not_or] at h
    obtain ⟨hhtu, hccs, hbme⟩ := h
    exact ⟨fun haddress => Option.eq_none_iff_forall_ne_some.mpr fun m hm => hhtu ⟨m, hm, haddress⟩,
      fun m hm haddress => hccs ⟨m, hm, haddress⟩, fun m hm haddress => hbme ⟨m, hm, haddress⟩⟩

theorem SameDevices.attached {b' : SimulatedBus} (h : b.SameDevices b') :
    b'.attached = b.attached := by
  rw [SimulatedBus.attached, h.htu21d, h.ccs811, h.bme68x, ← SimulatedBus.attached]

theorem SameDevices.vacant_iff {b' : SimulatedBus} (h : b.SameDevices b') {address : UInt8} :
    b'.Vacant address ↔ b.Vacant address := by
  rw [SimulatedBus.vacant_iff, SimulatedBus.vacant_iff, h.attached]

theorem attached_serve (b : SimulatedBus) (address : UInt8) (transfer : Transfer) :
    (b.serve address transfer).2.attached = b.attached := by
  unfold serve
  split
  case h_1 m hm =>
    have hpresent : b.htu21d = some m := (Option.filter_eq_some_iff.mp hm).1
    simp [attached, hpresent]
  case h_2 =>
    split
    case h_1 m hm =>
      have hpresent : b.ccs811 = some m := (Option.filter_eq_some_iff.mp hm).1
      simp [attached, hpresent, m.address_serve transfer]
    case h_2 =>
      split
      case h_1 m hm =>
        have hpresent : b.bme68x = some m := (Option.filter_eq_some_iff.mp hm).1
        simp [attached, hpresent, m.address_serve transfer]
      case h_2 => rfl

theorem attached_disturbDevices (b : SimulatedBus) (d : Disturbance) :
    (b.disturbDevices d).attached = b.attached := by
  simp [attached, disturbDevices, Option.map_map, Function.comp_def,
    Ccs811.Model.address_disturbed, Bme68x.Model.address_disturbed]

theorem serve_ok {address : UInt8} (h : ¬ b.Vacant address) (transfer : Transfer) :
    ∃ bytes, (b.serve address transfer).1 = .ok bytes := by
  unfold serve
  split
  · exact ⟨_, rfl⟩
  case h_2 hhtu =>
    split
    · exact ⟨_, rfl⟩
    case h_2 hccs =>
      split
      · exact ⟨_, rfl⟩
      case h_2 hbme =>
        refine absurd ?_ h
        rw [Option.filter_eq_none_iff] at hhtu hccs hbme
        refine ⟨fun haddress => ?_, fun m hm haddress => ?_, fun m hm haddress => ?_⟩
        · refine Option.eq_none_iff_forall_ne_some.mpr fun m hm => ?_
          exact hhtu m hm (beq_iff_eq.mpr haddress)
        · exact hccs m hm (beq_iff_eq.mpr haddress)
        · exact hbme m hm (beq_iff_eq.mpr haddress)

/-- An attempt uses up a failure of its address, or meets no device that listens, or is served.
There is no fourth way, and each adds one to the transactions. -/
inductive Met (b : SimulatedBus) (attempt : Attempt) :
    Response attempt.transfer → SimulatedBus → Prop where
  | injected (h : attempt.address ∈ b.pendingFailures) :
      Met b attempt (.error .addressNack)
        { b with
          transactions := b.transactions + 1
          pendingFailures := useFailure b.pendingFailures attempt.address }
  | silent (hnone : attempt.address ∉ b.pendingFailures)
      (h : attempt.address ∈ b.offline ∨ b.Vacant attempt.address) :
      Met b attempt (.error .addressNack) { b with transactions := b.transactions + 1 }
  | answered (hnone : attempt.address ∉ b.pendingFailures) (honline : attempt.address ∉ b.offline)
      (h : ¬ b.Vacant attempt.address) (bytes : Vector UInt8 attempt.transfer.readLength) :
      Met b attempt (.ok bytes)
        (({ b with transactions := b.transactions + 1 } : SimulatedBus).serve
          attempt.address attempt.transfer).2

theorem met_transact (b : SimulatedBus) (attempt : Attempt) :
    b.Met attempt (Bus.transact b attempt.address attempt.transfer).1 (b.meet (.call attempt)) := by
  let counted := { b with transactions := b.transactions + 1 }
  have hcounted : b.SameDevices counted := ⟨rfl, rfl, rfl⟩
  let answer := Bus.transact b attempt.address attempt.transfer
  show b.Met attempt answer.1 answer.2
  by_cases hpending : attempt.address ∈ b.pendingFailures
  · have hanswer : answer = (.error .addressNack,
        { counted with pendingFailures := useFailure b.pendingFailures attempt.address }) :=
      if_pos (List.contains_iff_mem.mpr hpending)
    rw [hanswer]
    exact .injected hpending
  have hmissing : ¬ b.pendingFailures.contains attempt.address := fun h =>
    hpending (List.contains_iff_mem.mp h)
  by_cases hoffline : attempt.address ∈ b.offline
  · have hanswer : answer = (.error .addressNack, counted) :=
      (if_neg hmissing).trans (if_pos (List.contains_iff_mem.mpr hoffline))
    rw [hanswer]
    exact .silent hpending (.inl hoffline)
  have hanswer : answer = counted.serve attempt.address attempt.transfer :=
    (if_neg hmissing).trans (if_neg fun h => hoffline (List.contains_iff_mem.mp h))
  rw [hanswer]
  by_cases hvacant : b.Vacant attempt.address
  · rw [(hcounted.vacant_iff.mpr hvacant).serve_eq attempt.transfer]
    exact .silent hpending (.inr hvacant)
  · obtain ⟨bytes, hbytes⟩ := serve_ok (mt hcounted.vacant_iff.mp hvacant) attempt.transfer
    rw [hbytes]
    exact .answered hpending hoffline hvacant bytes

variable {attempt : Attempt} {response : Response attempt.transfer} {after : SimulatedBus}

theorem Met.transactions (h : b.Met attempt response after) :
    after.transactions = b.transactions + 1 := by
  cases h with
  | injected | silent => rfl
  | answered => exact (serve_keeps _ _ _).2.2

theorem Met.offline (h : b.Met attempt response after) : after.offline = b.offline := by
  cases h with
  | injected | silent => rfl
  | answered => exact (serve_keeps _ _ _).2.1

theorem Met.attached (h : b.Met attempt response after) : after.attached = b.attached := by
  cases h with
  | injected | silent => rfl
  | answered => exact attached_serve _ _ _

/-- At the address of the attempt one failure less is pending, if there was any, and at other
addresses there are as many as before. -/
theorem Met.count (h : b.Met attempt response after) (address : UInt8) :
    after.pendingFailures.count address =
      b.pendingFailures.count address - if address = attempt.address then 1 else 0 := by
  have hnone (hmissing : attempt.address ∉ b.pendingFailures) :
      b.pendingFailures.count address =
        b.pendingFailures.count address - if address = attempt.address then 1 else 0 := by
    split
    case isTrue haddress => rw [haddress, List.count_eq_zero_of_not_mem hmissing]
    case isFalse => rfl
  cases h with
  | injected h => exact count_useFailure h address
  | silent hmissing => exact hnone hmissing
  | answered hmissing =>
    rw [(serve_keeps _ _ _).1]
    exact hnone hmissing

theorem fails_iff :
    b.Fails attempt ↔ attempt.address ∈ b.pendingFailures ∨ attempt.address ∈ b.offline ∨
      b.Vacant attempt.address := by
  have hmet := b.met_transact attempt
  unfold Fails
  generalize (Bus.transact b attempt.address attempt.transfer).1 = response at hmet
  generalize b.meet (.call attempt) = after at hmet
  cases hmet with
  | injected h => exact iff_of_true ⟨_, rfl⟩ (.inl h)
  | silent hnone h => exact iff_of_true ⟨_, rfl⟩ (.inr h)
  | answered hnone honline h bytes =>
    refine iff_of_false (fun ⟨_, hfault⟩ => nomatch hfault) ?_
    rintro (hpending | hoffline | hvacant)
    · exact hnone hpending
    · exact honline hoffline
    · exact h hvacant

/-- A failed attempt reaches no device, so it leaves all of them in the same state. -/
theorem Fails.sameDevices (h : b.Fails attempt) :
    b.SameDevices (b.meet (.call attempt)) := by
  obtain ⟨fault, hfault⟩ := h
  have hmet := b.met_transact attempt
  rw [hfault] at hmet
  generalize b.meet (.call attempt) = after at hmet ⊢
  cases hmet with
  | injected | silent => exact ⟨rfl, rfl, rfl⟩

/-- Only the last switch of an address counts, and the switch before it leaves no trace. -/
theorem setOffline_setOffline (b : SimulatedBus) (address : UInt8) (first last : Bool) :
    (b.setOffline address first).setOffline address last = b.setOffline address last := by
  have hothers : (b.setOffline address first).offline.filter (· != address) =
      b.offline.filter (· != address) := by
    unfold setOffline
    dsimp only
    split <;> simp [List.filter_append]
  have hrest (offline : List UInt8) :
      { b.setOffline address first with offline := offline } = { b with offline := offline } := by
    unfold setOffline
    dsimp only
    split <;> rfl
  rw [setOffline, hothers, hrest, hrest, ← setOffline]

/-- The lists of the bus hold what every address has before it. Their order is left open, since it
is not kept. -/
structure Tracks (start now : SimulatedBus) (turns : List (Turn Attempt)) : Prop where
  failures : ∀ address, now.pendingFailures.count address = (outlook address turns).failures
  offline : ∀ address, address ∈ now.offline ↔ (outlook address turns).offline = true
  distinct : now.offline.Nodup
  attached : now.attached = start.attached
  transactions : now.transactions = start.transactions + turns.countP isAttempt

section Turns

variable {start now : SimulatedBus} {turns : List (Turn Attempt)}

theorem Tracks.call (h : Tracks start now turns) (attempt : Attempt) :
    Tracks start (now.meet (.call attempt)) (turns ++ [.call attempt]) where
  failures address := by
    rw [(now.met_transact attempt).count, h.failures, outlook_call]
  offline address := by
    rw [(now.met_transact attempt).offline, h.offline, outlook_call]
  distinct := by
    rw [(now.met_transact attempt).offline]
    exact h.distinct
  attached := (now.met_transact attempt).attached.trans h.attached
  transactions := by
    rw [(now.met_transact attempt).transactions, h.transactions, List.countP_append]
    rfl

theorem Tracks.failNext (h : Tracks start now turns) {target : UInt8}
    (hlimits : WithinLimits (turns ++ [.disturb (.failNext target)])) :
    Tracks start (now.failNext target) (turns ++ [.disturb (.failNext target)]) := by
  have hcount : ∀ address, (now.pendingFailures ++ [target]).count address =
      (outlook address (turns ++ [.disturb (.failNext target)])).failures := by
    intro address
    rw [List.count_append, h.failures, outlook_failNext, List.count_singleton]
    simp only [beq_iff_eq, @eq_comm _ target]
  have hroom : now.pendingFailures.length < maxPendingFailures := by
    have hfits := hlimits.length_failures hcount
    rwa [List.length_append] at hfits
  have hnow : now.failNext target =
      { now with pendingFailures := now.pendingFailures ++ [target] } := if_pos hroom
  rw [hnow]
  exact {
    failures := hcount
    offline := fun address => by rw [outlook_failNext]; exact h.offline address
    distinct := h.distinct
    attached := h.attached
    transactions := by rw [List.countP_append]; exact h.transactions }

theorem Tracks.setOffline (h : Tracks start now turns) {target : UInt8} {offline : Bool}
    (hlimits : WithinLimits (turns ++ [.disturb (.setOffline target offline)])) :
    Tracks start (now.setOffline target offline)
      (turns ++ [.disturb (.setOffline target offline)]) := by
  -- The list as it would be without a limit; within the limits it fits.
  let others := now.offline.filter (· != target)
  let next := others ++ if offline then [target] else []
  have hmem : ∀ address, address ∈ next ↔
      (outlook address (turns ++ [.disturb (.setOffline target offline)])).offline = true := by
    intro address
    have hbefore := h.offline address
    rw [outlook_setOffline]
    by_cases haddress : address = target
    · cases offline <;> simp [next, others, haddress]
    · cases offline <;> simp [next, others, haddress, hbefore]
  have hdistinct : next.Nodup := by
    have hothers : others.Nodup := h.distinct.filter _
    cases offline
    · simpa [next] using hothers
    · simp [next, others, List.nodup_append, h.distinct.filter]
  have hfits : next.length ≤ maxOffline := hlimits.length_offline hdistinct hmem
  have hnow : now.setOffline target offline = { now with offline := next } := by
    cases offline with
    | false => exact congrArg (fun list => { now with offline := list }) (List.append_nil others).symm
    | true =>
      have hroom : others.length < maxOffline := by
        rwa [List.length_append] at hfits
      exact if_pos (by simpa using hroom)
  rw [hnow]
  exact {
    failures := fun address => by rw [outlook_setOffline]; exact h.failures address
    offline := hmem
    distinct := hdistinct
    attached := h.attached
    transactions := by rw [List.countP_append]; exact h.transactions }

/-- What a device measures is no fault, and it concerns no address. -/
theorem Tracks.disturbDevices (h : Tracks start now turns) {d : Disturbance}
    (hd : ∀ address, concern? address (.disturb d) = none) :
    Tracks start (now.disturbDevices d) (turns ++ [.disturb d]) where
  failures address := by
    rw [outlook_concat, hd]
    exact h.failures address
  offline address := by
    rw [outlook_concat, hd]
    exact h.offline address
  distinct := h.distinct
  attached := (attached_disturbDevices now d).trans h.attached
  transactions := by
    rw [List.countP_append]
    exact h.transactions

theorem Tracks.meet (h : Tracks start now turns) {t : Turn Attempt}
    (hlimits : WithinLimits (turns ++ [t])) : Tracks start (now.meet t) (turns ++ [t]) := by
  cases t with
  | call attempt => exact h.call attempt
  | disturb d =>
    cases d with
    | failNext target => exact h.failNext hlimits
    | setOffline target offline => exact h.setOffline hlimits
    | setTemperature | setHumidity | setCorrupt | publish | raiseError | stage =>
      exact h.disturbDevices fun _ => rfl

theorem tracks_meetAll (hfailures : start.pendingFailures = []) (hoffline : start.offline = [])
    (hroomy : Roomy turns) : Tracks start (start.meetAll turns) turns := by
  induction turns using List.reverseRecOn with
  | nil =>
    exact {
      failures := fun address => by rw [meetAll, List.foldl_nil, hfailures]; rfl
      offline := fun address => by
        rw [meetAll, List.foldl_nil, hoffline]
        exact iff_of_false List.not_mem_nil Bool.false_ne_true
      distinct := by
        rw [meetAll, List.foldl_nil, hoffline]
        exact List.nodup_nil
      attached := rfl
      transactions := rfl }
  | append_singleton turns t ih =>
    rw [meetAll_concat]
    exact (ih hroomy.of_append).meet hroomy.withinLimits

theorem Tracks.fails_iff (h : Tracks start now turns) {attempt : Attempt} :
    now.Fails attempt ↔ 0 < (outlook attempt.address turns).failures ∨
      (outlook attempt.address turns).offline = true ∨ start.Vacant attempt.address := by
  rw [SimulatedBus.fails_iff, vacant_iff, vacant_iff, h.attached, h.offline, ← h.failures,
    List.count_pos_iff]

/-- An attempt fails for an outstanding failure of its own address, for being offline or for want of
a device, and then changes no device. Every request for a failure makes one attempt at its address
fail, the next one that no earlier request there has claimed, whatever happens at other addresses.
Of the switches of an address the last one counts, and every attempt is counted. -/
theorem faults_are_exact {b : SimulatedBus} (hfailures : b.pendingFailures = [])
    (hoffline : b.offline = []) {turns : List (Turn Attempt)} (hroomy : Roomy turns) :
    let now := b.meetAll turns
    (∀ attempt : Attempt,
      let ahead := outlook attempt.address turns
      (now.Fails attempt ↔
        0 < ahead.failures ∨ ahead.offline = true ∨ b.Vacant attempt.address) ∧
      (now.Fails attempt → now.SameDevices (now.meet (.call attempt)))) ∧
    (∀ address,
      let claimed := (ledger address turns).claimed
      claimed.Nodup ∧ claimed.length = (concerns address turns).count .failure) ∧
    (∀ past attempt rest, turns = past ++ .call attempt :: rest →
      let address := attempt.address
      ((b.meetAll past).Fails attempt ↔
        (concerns address past).count .attempt ∈ (ledger address turns).claimed ∨
          (outlook address past).offline = true ∨ b.Vacant address)) ∧
    (∀ address other, Roomy other → concerns address other = concerns address turns →
      ∀ transfer, (b.meetAll other).Fails ⟨address, transfer⟩ ↔ now.Fails ⟨address, transfer⟩) ∧
    (∀ address first last,
      (now.setOffline address first).setOffline address last = now.setOffline address last) ∧
    (∀ past address offline rest, turns = past ++ .disturb (.setOffline address offline) :: rest →
      (∀ later, .switch later ∉ concerns address rest) →
        (address ∈ now.offline ↔ offline = true)) ∧
    now.transactions = b.transactions + turns.countP isAttempt := by
  intro now
  have htracks {past : List (Turn Attempt)} (h : Roomy past) : Tracks b (b.meetAll past) past :=
    tracks_meetAll hfailures hoffline h
  have hnow : Tracks b now turns := htracks hroomy
  refine ⟨fun attempt => ⟨hnow.fails_iff, Fails.sameDevices⟩,
    fun address => ⟨Ledger.nodup_claimed _, Ledger.length_claimed _⟩, ?_, ?_,
    now.setOffline_setOffline, ?_, hnow.transactions⟩
  · rintro past attempt rest rfl address
    have hmade : concern? address (.call attempt) = some .attempt := if_pos rfl
    have hconcerns := concerns_split hmade past rest
    rw [(htracks hroomy.of_append).fails_iff, ledger, hconcerns, Ledger.claims_attempt_iff]
    rfl
  · intro address other hother hsame transfer
    rw [(htracks hother).fails_iff, hnow.fails_iff, outlook, outlook, hsame]
  · rintro past address offline rest rfl hlast
    have hswitched : concern? address (.disturb (.setOffline address offline)) =
        some (.switch offline) := if_pos rfl
    have hconcerns := concerns_split hswitched past rest
    rw [hnow.offline, outlook, hconcerns, Outlook.offline_of_last _ _ hlast]

/-- As the first failure is used up, the third takes its place before the second. Each of the three
is met all the same. -/
theorem faults_are_exact_swapped :
    let b : SimulatedBus := { SimulatedBus.empty with htu21d := some Htu21d.Model.standard }
    let requests : List (Turn Attempt) :=
      [.disturb (.failNext 0x40), .disturb (.failNext 0x5A), .disturb (.failNext 0x76)]
    let attempt : Attempt := ⟨0x40, .read 3⟩
    let now := b.meetAll (requests ++ [.call attempt])
    Roomy (requests ++ [.call attempt]) ∧ now.pendingFailures = [0x76, 0x5A] ∧
      (b.meetAll requests).Fails attempt ∧ ¬ now.Fails attempt ∧ now.Fails ⟨0x5A, .read 3⟩ ∧
      now.transactions = 1 := by
  intro b requests attempt now
  have hfailures : b.pendingFailures = [] := rfl
  have hoffline : b.offline = [] := rfl
  have hroomy : Roomy (requests ++ [.call attempt]) := by decide +kernel
  obtain ⟨hfails, -, hmade, -, -, -, hcounted⟩ := faults_are_exact hfailures hoffline hroomy
  have hattached : ¬ b.Vacant 0x40 := fun h => nomatch h.htu21d rfl
  refine ⟨hroomy, rfl, ?_, ?_, ?_, hcounted⟩
  · have hclaimed : 0 ∈ (ledger 0x40 (requests ++ [.call attempt])).claimed :=
      (Ledger.claims_attempt_iff [.failure] []).mpr Nat.one_pos
    exact (hmade requests attempt [] rfl).mpr (.inl hclaimed)
  · rw [(hfails attempt).1]
    rintro (hfailure | hsilent | hvacant)
    · exact absurd hfailure (by decide)
    · exact absurd hsilent (by decide)
    · exact hattached hvacant
  · exact (hfails ⟨0x5A, .read 3⟩).1.mpr (.inl (by decide))

end Turns

end AirStation.SimulatedBus
