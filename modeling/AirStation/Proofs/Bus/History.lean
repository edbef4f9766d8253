import AirStation.Proofs.Bus.Outcome

/-!
Histories: a system takes one call after another over one bus, and every call is recorded with the
state it met, what it did and the state it left. The bus is any `Bus`, so a history stands for every
pattern of faults and answers. `History.invariant` proves a property of a history from what single
calls can do.

Nothing is assumed of the system but a step that is a computation on the bus. Drivers and the
station are such systems, and so are pairs of them. A property of a history may speak of its whole
past, which is how statements such as "the latest write" become invariants.
-/

namespace AirStation

/-- One call of a history: the state it met, everything it did on the bus and beside it, and the
state it left. -/
structure Episode (ε σ κ : Type) where
  before : σ
  call : κ
  actions : List (Action ε)
  after : σ

namespace Episode

variable {ε σ κ : Type}

/-- The transactions of an episode, in order, with their answers and with those that failed. -/
def exchanges (e : Episode ε σ κ) : List Exchange :=
  e.actions.filterMap Action.exchange?

/-- The transactions of an episode that a device has acknowledged, and so all that devices know of
it. -/
def acknowledged (e : Episode ε σ κ) : List Exchange :=
  e.exchanges.filter (·.acknowledged)

end Episode

/-- A system after some calls, with the bus as they have left it and the record of what happened. -/
structure History (β ε σ κ : Type) where
  state : σ
  bus : β
  past : List (Episode ε σ κ)

namespace History

variable {β ε σ κ : Type}

def start (state : σ) (bus : β) : History β ε σ κ :=
  ⟨state, bus, []⟩

variable [Bus β] (step : σ → κ → BusM ε σ)

/-- What a call would be if it came next. It is recorded like this when it comes. -/
def episode (h : History β ε σ κ) (c : κ) : Episode ε σ κ :=
  let run := (step h.state c).run h.bus
  ⟨h.state, c, run.actions, run.value⟩

/-- One more call, on the state and the bus that the earlier ones left, added to the record. -/
def call (h : History β ε σ κ) (c : κ) : History β ε σ κ :=
  let run := (step h.state c).run h.bus
  ⟨run.value, run.bus, h.past ++ [h.episode step c]⟩

def play (h : History β ε σ κ) (calls : List κ) : History β ε σ κ :=
  calls.foldl (call step) h

/-- What further calls add to the past, in their order, from the state and the bus that the history
has now. -/
def episodes (h : History β ε σ κ) : List κ → List (Episode ε σ κ)
  | [] => []
  | c :: rest => h.episode step c :: (h.call step c).episodes rest

variable {step}

theorem calls_episodes (h : History β ε σ κ) (calls : List κ) :
    (h.episodes step calls).map (·.call) = calls := by
  induction calls generalizing h with
  | nil => rfl
  | cons c rest ih => exact congrArg _ (ih (h.call step c))

/-- The last call of a list meets what the others have left. -/
theorem episodes_concat (h : History β ε σ κ) (calls : List κ) (c : κ) :
    h.episodes step (calls ++ [c]) =
      h.episodes step calls ++ [(h.play step calls).episode step c] := by
  induction calls generalizing h with
  | nil => rfl
  | cons first rest ih => exact congrArg _ (ih (h.call step first))

theorem play_append (h : History β ε σ κ) (calls more : List κ) :
    h.play step (calls ++ more) = (h.play step calls).play step more :=
  List.foldl_append

theorem play_concat (h : History β ε σ κ) (calls : List κ) (c : κ) :
    h.play step (calls ++ [c]) = (h.play step calls).call step c :=
  play_append h calls [c]

theorem calls_play (h : History β ε σ κ) (calls : List κ) :
    (h.play step calls).past.map (·.call) = h.past.map (·.call) ++ calls := by
  induction calls generalizing h with
  | nil => simp [play]
  | cons c rest ih =>
    have hrest := ih (h.call step c)
    simpa [play, call, episode] using hrest

/-- A property of the past and the present state holds throughout when it holds at the start and
every outcome of every call keeps it. What the outcomes are is said by a relation that has been
shown for single calls, so the bus no longer occurs. -/
theorem invariant (Inv : List (Episode ε σ κ) → σ → Prop)
    {R : σ → κ → List (Action ε) → σ → Prop} (hR : ∀ s c, (step s c).Always (R s c))
    (hstep : ∀ past s c actions s', Inv past s → R s c actions s' →
      Inv (past ++ [⟨s, c, actions, s'⟩]) s')
    {h : History β ε σ κ} (hstart : Inv h.past h.state) (calls : List κ) :
    Inv (h.play step calls).past (h.play step calls).state := by
  induction calls generalizing h with
  | nil => exact hstart
  | cons c rest ih =>
    apply ih
    exact hstep _ _ _ _ _ hstart ((hR h.state c).run h.bus)

end History

/-- The part of a list that starts with the last element of the given kind, or the whole list if
there is none. -/
def sinceLast {α : Type} (kind : α → Bool) (l : List α) : List α :=
  l.foldl (fun kept x => if kind x then [x] else kept ++ [x]) []

theorem sinceLast_concat {α : Type} (kind : α → Bool) (l : List α) (x : α) :
    sinceLast kind (l ++ [x]) = if kind x then [x] else sinceLast kind l ++ [x] := by
  simp [sinceLast, List.foldl_append]

end AirStation
