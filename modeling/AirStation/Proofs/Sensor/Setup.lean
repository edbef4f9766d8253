import AirStation.Proofs.Bus.Outcome
import AirStation.Sensor.Event

/-!
Sequences of set-up steps. A sequence goes on after a step that succeeded and ends with the error of
the first one that failed. `Completes` says what holds of those runs that get to the end, and
follows the sequence step by step, so a set-up is described without a case for each of the places
where it can fail.
-/

namespace AirStation

variable {α γ : Type}

/-- The outcomes of a sequence: those of both parts after a success, and those of the first part
alone after an error. -/
theorem always_setup_bind (m : SetupM α) (f : α → SetupM γ)
    (post : List (Action Event) → Except SensorError γ → Prop) :
    (m >>= f).run.Always post ↔
      m.run.Always fun first result =>
        match result with
        | .ok value => (f value).run.Always fun second => post (first ++ second)
        | .error error => post first (.error error) := by
  rw [ExceptT.run_bind, BusM.always_bind]
  constructor
  · intro h
    refine h.mono fun first result hresult => ?_
    cases result with
    | ok value => exact hresult
    | error error => simpa using hresult
  · intro h
    refine h.mono fun first result hresult => ?_
    cases result with
    | ok value => exact hresult
    | error error => simpa using hresult

/-- The outcomes of an attempt are those of the step, with the fault worded as an error of the
sensor. -/
theorem always_attempt (failure : Fault → SensorError) (step : SensorM (Except Fault α))
    (post : List (Action Event) → Except SensorError α → Prop) :
    (attempt failure step).run.Always post ↔
      step.Always fun actions result =>
        match result with
        | .ok value => post actions (.ok value)
        | .error fault => post actions (.error (failure fault)) := by
  refine (BusM.always_map _ _ _).trans ⟨fun h => h.mono ?_, fun h => h.mono ?_⟩
  all_goals
    intro actions result hresult
    cases result <;> exact hresult

theorem always_settle (milliseconds : Nat)
    (post : List (Action Event) → Except SensorError Unit → Prop) :
    (settle milliseconds).run.Always post ↔ post [.paused milliseconds] (.ok ()) := Iff.rfl

/-- If the sequence gets to its end, its actions and its value are as `post` says. Of sequences that
stop it says nothing. -/
def Completes (m : SetupM α) (post : List (Action Event) → α → Prop) : Prop :=
  m.run.Always fun actions result => ∀ value, result = .ok value → post actions value

theorem Completes.mono {m : SetupM α} {post post' : List (Action Event) → α → Prop}
    (h : Completes m post) (hpost : ∀ actions value, post actions value → post' actions value) :
    Completes m post' :=
  BusM.Always.mono h fun actions _ hresult value hvalue =>
    hpost actions value (hresult value hvalue)

/-- A sequence completes if both its parts do, and what holds then may be known of the first part in
between. -/
theorem Completes.bind {m : SetupM α} {f : α → SetupM γ} {first : List (Action Event) → α → Prop}
    {post : List (Action Event) → γ → Prop} (hm : Completes m first)
    (hf : ∀ actions value, first actions value →
      Completes (f value) fun later => post (actions ++ later)) : Completes (m >>= f) post := by
  refine (always_setup_bind m f _).mpr (BusM.Always.mono hm fun actions result hresult => ?_)
  cases result with
  | ok value => exact hf actions value (hresult value rfl)
  | error error => exact fun _ herror => nomatch herror

/-- A step that is only taken for what it does, whatever comes of it. -/
theorem Completes.after (m : SetupM α) {f : α → SetupM γ} {post : List (Action Event) → γ → Prop}
    (hf : ∀ actions value, Completes (f value) fun later => post (actions ++ later)) :
    Completes (m >>= f) post := by
  have hm : Completes m fun _ _ => True := .of_forall _ fun _ _ _ _ => trivial
  exact hm.bind fun actions value _ => hf actions value

theorem completes_pure (value : α) (post : List (Action Event) → α → Prop) :
    Completes (pure value) post ↔ post [] value := by
  refine ⟨fun h => h value rfl, fun h value' hvalue => ?_⟩
  rwa [← Except.ok.inj hvalue]

theorem completes_throw (error : SensorError) (post : List (Action Event) → α → Prop) :
    Completes (throw error) post :=
  fun _ herror => nomatch herror

theorem completes_settle (milliseconds : Nat) (post : List (Action Event) → Unit → Prop) :
    Completes (settle milliseconds) post ↔ post [.paused milliseconds] () :=
  ⟨fun h => h () rfl, fun h _ _ => h⟩

theorem completes_attempt {failure : Fault → SensorError} {step : SensorM (Except Fault α)}
    {post : List (Action Event) → α → Prop}
    (h : step.Always fun actions result => ∀ value, result = .ok value → post actions value) :
    Completes (attempt failure step) post := by
  refine (always_attempt failure step _).mpr (h.mono fun actions result hresult => ?_)
  cases result with
  | ok value =>
    rintro value' hvalue
    exact hresult value' (congrArg Except.ok (Except.ok.inj hvalue))
  | error fault => exact fun _ herror => nomatch herror

theorem does_setup_bind {P : Action Event → Prop} {m : SetupM α} {f : α → SetupM γ}
    (hm : m.run.Does P) (hf : ∀ value, (f value).run.Does P) : (m >>= f).run.Does P := by
  rw [ExceptT.run_bind]
  apply hm.bind
  intro result
  cases result with
  | ok value => exact hf value
  | error error => trivial

theorem does_attempt {P : Action Event → Prop} {step : SensorM (Except Fault α)}
    (hstep : step.Does P) (failure : Fault → SensorError) : (attempt failure step).run.Does P :=
  hstep.bind fun _ => trivial

theorem does_settle {P : Action Event → Prop} {milliseconds : Nat}
    (h : P (.paused milliseconds)) : (settle milliseconds).run.Does P :=
  ⟨h, trivial⟩

end AirStation
