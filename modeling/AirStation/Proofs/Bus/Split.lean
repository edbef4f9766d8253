import AirStation.Proofs.Bus.History

/-!
Buses on which devices cannot disturb each other: every address answers by its own past alone.
`Same` compares two computations over two such buses that agree at some watched addresses: they do
the same there, and their results are related. It is proved piece by piece, where a piece either
stays at the watched addresses and is the same on both sides, or stays away from them.

What a device answers is otherwise free, faults included. A statement over all such buses is
therefore one about what the program does: if two systems differ on them at a watched address, it is
not the bus that carried the difference there.
-/

namespace AirStation

/-- A bus with any devices on it, given by the answers of each address to the exchanges that it has
taken part in. -/
structure SplitBus where
  /-- How an address answers after the exchanges it has taken part in. -/
  answer : UInt8 → List Exchange → (transfer : Transfer) → Response transfer
  past : List Exchange

namespace SplitBus

/-- The exchanges that an address has taken part in, which is all that it knows. -/
def seen (b : SplitBus) (address : UInt8) : List Exchange :=
  b.past.filter (·.address == address)

instance : Bus SplitBus where
  transact b address transfer :=
    let response := b.answer address (b.seen address) transfer
    (response, { b with past := b.past ++ [⟨address, transfer, response⟩] })

/-- From here on the address answers in the same way on both buses, since it is the same device with
the same past. -/
structure AgreeAt (address : UInt8) (b b' : SplitBus) : Prop where
  answer : b.answer address = b'.answer address
  seen : b.seen address = b'.seen address

/-- The buses agree at all watched addresses, and may differ in every way at the others. -/
def Alike (watched : UInt8 → Bool) (b b' : SplitBus) : Prop :=
  ∀ address, watched address = true → AgreeAt address b b'

section Run

variable {ε α : Type} (m : BusM ε α) (b : SplitBus)

theorem answer_run : (m.run b).bus.answer = b.answer := by
  induction m generalizing b with
  | done value => rfl
  | exchange address transfer next ih => exact ih _ _
  | pause milliseconds next ih => exact ih b
  | report event next ih => exact ih b

theorem past_run : (m.run b).bus.past = b.past ++ (m.run b).exchanges := by
  induction m generalizing b with
  | done value => exact (List.append_nil _).symm
  | exchange address transfer next ih => exact (ih _ _).trans (List.append_assoc _ [_] _)
  | pause milliseconds next ih => exact ih b
  | report event next ih => exact ih b

theorem seen_run (address : UInt8) :
    (m.run b).bus.seen address =
      b.seen address ++ (m.run b).exchanges.filter (·.address == address) := by
  rw [seen, past_run, List.filter_append]
  rfl

end Run

end SplitBus

def exchangesAt (watched : UInt8 → Bool) (exchanges : List Exchange) : List Exchange :=
  exchanges.filter fun e => watched e.address

theorem exchangesAt_append (watched : UInt8 → Bool) (first second : List Exchange) :
    exchangesAt watched (first ++ second) =
      exchangesAt watched first ++ exchangesAt watched second :=
  List.filter_append _ _

/-- At a watched address nothing is left out, so what is seen there can be told from the watched
exchanges. -/
theorem filter_exchangesAt {watched : UInt8 → Bool} {address : UInt8}
    (haddress : watched address = true) (exchanges : List Exchange) :
    (exchangesAt watched exchanges).filter (·.address == address) =
      exchanges.filter (·.address == address) := by
  unfold exchangesAt
  rw [List.filter_filter]
  apply List.filter_congr
  intro e _
  by_cases he : e.address = address
  · simp [he, haddress]
  · simp [he]

namespace BusM

variable {ε α α' γ γ' : Type} {watched : UInt8 → Bool}

/-- Over buses that agree at the watched addresses, the two computations do the same there and end
with related results. The two sides may be computations of different systems. -/
def Same (watched : UInt8 → Bool) (m : BusM ε α) (m' : BusM ε α') (Q : α → α' → Prop) : Prop :=
  ∀ b b' : SplitBus, b.Alike watched b' →
    exchangesAt watched (m.run b).exchanges = exchangesAt watched (m'.run b').exchanges ∧
      Q (m.run b).value (m'.run b').value

variable {m : BusM ε α} {m' : BusM ε α'} {P Q : α → α' → Prop}

/-- The buses that are left agree again at the watched addresses, so a comparison can go on from
there. -/
theorem Same.alike (h : m.Same watched m' Q) {b b' : SplitBus} (hb : b.Alike watched b') :
    (m.run b).bus.Alike watched (m'.run b').bus := by
  intro address haddress
  obtain ⟨hanswer, hseen⟩ := hb address haddress
  have hexchanges := congrArg (List.filter (·.address == address)) (h b b' hb).1
  rw [filter_exchangesAt haddress, filter_exchangesAt haddress] at hexchanges
  constructor
  · rw [SplitBus.answer_run, SplitBus.answer_run, hanswer]
  · rw [SplitBus.seen_run, SplitBus.seen_run, hseen, hexchanges]

theorem Same.mono (h : m.Same watched m' P)
    (hPQ : ∀ value value', P value value' → Q value value') : m.Same watched m' Q :=
  fun b b' hb => ⟨(h b b' hb).1, hPQ _ _ (h b b' hb).2⟩

/-- Two sequences are compared part by part, where the second parts may rely on how the results of
the first are related. -/
theorem Same.bind {f : α → BusM ε γ} {f' : α' → BusM ε γ'} {R : γ → γ' → Prop}
    (hm : m.Same watched m' Q)
    (hf : ∀ value value', Q value value' → (f value).Same watched (f' value') R) :
    (m >>= f).Same watched (m' >>= f') R := by
  intro b b' hb
  obtain ⟨hfirst, hvalue⟩ := hm b b' hb
  obtain ⟨hsecond, hresult⟩ := hf _ _ hvalue _ _ (hm.alike hb)
  simp only [run_bind]
  refine ⟨?_, hresult⟩
  simp only [Run.exchanges, List.filterMap_append] at hfirst hsecond ⊢
  rw [exchangesAt_append, exchangesAt_append, hfirst, hsecond]

theorem same_pure {value : α} {value' : α'} (h : Q value value') :
    (pure value : BusM ε α).Same watched (pure value' : BusM ε α') Q :=
  fun _ _ _ => ⟨rfl, h⟩

theorem Same.map {f : α → γ} {f' : α' → γ'} {R : γ → γ' → Prop}
    (hm : m.Same watched m' fun value value' => R (f value) (f' value')) :
    (f <$> m).Same watched (f' <$> m') R := by
  rw [map_eq_pure_bind, map_eq_pure_bind]
  exact hm.bind fun _ _ => same_pure

/-- What holds of every outcome of either side may be added to what relates their results. -/
theorem Same.and_always {p : α → Prop} {p' : α' → Prop} (h : m.Same watched m' Q)
    (hm : m.Always fun _ => p) (hm' : m'.Always fun _ => p') :
    m.Same watched m' fun value value' => p value ∧ p' value' ∧ Q value value' :=
  fun b b' hb => ⟨(h b b' hb).1, hm.run b, hm'.run b', (h b b' hb).2⟩

/-- One transaction at a watched address is answered alike, and leaves its address with the same
past on both buses. -/
theorem same_exchange {address : UInt8} (haddress : watched address = true)
    (transfer : Transfer) :
    (exchange address transfer .done : BusM ε (Response transfer)).Same watched
      (exchange address transfer .done : BusM ε (Response transfer)) Eq := by
  intro b b' hb
  obtain ⟨hanswer, hseen⟩ := hb address haddress
  have hresponse : b.answer address (b.seen address) transfer =
      b'.answer address (b'.seen address) transfer := by
    rw [hanswer, hseen]
  refine ⟨?_, hresponse⟩
  exact congrArg (fun r => exchangesAt watched [⟨address, transfer, r⟩]) hresponse

/-- A computation that stays at the watched addresses cannot tell the buses apart, so it is the same
as itself. -/
theorem same_of_within {m : BusM ε α} (hm : m.Does (·.To (watched · = true))) :
    m.Same watched m Eq := by
  induction m with
  | done value => exact same_pure rfl
  | exchange address transfer next ih =>
    apply (same_exchange (hm (.error .bus)).1 transfer).bind
    rintro r _ rfl
    exact ih r (hm r).2
  | pause milliseconds next ih => exact ih hm.2
  | report event next ih => exact ih hm.2

theorem exchangesAt_of_outside {actions : List (Action ε)}
    (h : ∀ action ∈ actions, action.To (watched · = false)) :
    exchangesAt watched (actions.filterMap Action.exchange?) = [] := by
  apply List.filter_eq_nil_iff.mpr
  intro e he
  exact Bool.eq_false_iff.mp (h _ (Action.mem_exchanges.mp he))

/-- Computations that stay away from the watched addresses may differ in all they do, and in their
results. -/
theorem same_of_outside (hm : m.Does (·.To (watched · = false)))
    (hm' : m'.Does (·.To (watched · = false))) (hQ : ∀ value value', Q value value') :
    m.Same watched m' Q := by
  intro b b' _
  have hactions := ((does_iff_always _ m).mp hm).run b
  have hactions' := ((does_iff_always _ m').mp hm').run b'
  refine ⟨?_, hQ _ _⟩
  exact (exchangesAt_of_outside hactions).trans (exchangesAt_of_outside hactions').symm

/-- A piece that is the same on both sides when it is watched, and stays away when it is not. Its
results are the same in the first case only. -/
theorem same_of_flag (flag : Bool) {m m' : BusM ε α} (heq : flag = true → m = m')
    (hm : m.Does (·.To (watched · = flag))) (hm' : m'.Does (·.To (watched · = flag))) :
    m.Same watched m' fun value value' => flag = true → value = value' := by
  cases flag with
  | true =>
    obtain rfl := heq rfl
    exact (same_of_within hm).mono fun _ _ h _ => h
  | false => exact same_of_outside hm hm' fun _ _ h => Bool.noConfusion h

end BusM

namespace History

variable {ε σ κ γ : Type} {step : σ → κ → BusM ε σ} {watched : UInt8 → Bool}

/-- Two histories of the same calls look the same when every call does at the watched addresses. The
view may show the states that are related and the exchanges that are watched. -/
theorem map_past_eq {R : σ → σ → Prop} (view : Episode ε σ κ → γ)
    (hstep : ∀ s s' c, R s s' → (step s c).Same watched (step s' c) R)
    (hview : ∀ e e', R e.after e'.after →
      exchangesAt watched e.exchanges = exchangesAt watched e'.exchanges → view e = view e')
    {h h' : History SplitBus ε σ κ} (hstate : R h.state h'.state)
    (hbus : h.bus.Alike watched h'.bus) (hpast : h.past.map view = h'.past.map view)
    (calls : List κ) :
    (h.play step calls).past.map view = (h'.play step calls).past.map view := by
  induction calls generalizing h h' with
  | nil => exact hpast
  | cons c rest ih =>
    have hsame := hstep h.state h'.state c hstate
    obtain ⟨hexchanges, hafter⟩ := hsame h.bus h'.bus hbus
    have hepisode : view (h.episode step c) = view (h'.episode step c) :=
      hview _ _ hafter hexchanges
    refine ih hafter (hsame.alike hbus) ?_
    simp [call, hpast, hepisode]

end History

end AirStation
