import RvSim.System.Protocol

/-!
# How a call of a cache ends

A call of a cache ends with a value or an error of the bus, or it does not return: the source panics, or
drives a burst forever. This module has the outcomes, how calls are put together, and the rules for what
holds when a call ends.

## Main definitions

* `CacheError`, `Returned`: the ways a call ends
* `onOk`, `mapAnswer`, `ofBus`, `surfaced`: calls put together
* `Ends`: what holds when a call ends, by the way it ends

## Main results

* `Ends.onOk`, `Ends.mapAnswer`, `Ends.imp`: the rules
* `Ends.of_returned`: what holds behind a call that returned
-/

namespace RvSim

/-- How a call of a cache ends without a value: with an error of the bus, or not at all. -/
inductive CacheError
  | bus (error : BusError)
  | panic (message : String)
  /-- the loop that drives a burst is not at its end within the rounds of the bus -/
  | diverges
  deriving DecidableEq, Repr

/-- The call returned. -/
def Returned {α : Type} (answer : Except CacheError α) : Prop :=
  ∀ error, answer = .error error → ∃ busError, error = .bus busError

instance {α : Type} : DecidablePred (Returned (α := α))
  | .ok _ => isTrue fun _ h => by cases h
  | .error (.bus error) => isTrue fun _ h => ⟨error, (Except.error.inj h).symm⟩
  | .error (.panic _) => isFalse fun h => by obtain ⟨_, herror⟩ := h _ rfl; cases herror
  | .error .diverges => isFalse fun h => by obtain ⟨_, herror⟩ := h _ rfl; cases herror

/-- The answer of the bus trait. -/
def surface {α : Type} : Except CacheError α → Except BusError α
  | .ok value => .ok value
  | .error (.bus error) => .error error
  | .error (.panic message) => panicked 0 message
  | .error .diverges => panicked 0 "a burst is driven forever"

/-- A call as the bus trait answers it. -/
def surfaced {α σ : Type} (out : Except CacheError α × σ) : Except BusError α × σ :=
  (surface out.1, out.2)

/-- An answer of the backing bus. -/
def ofBus {α : Type} : Except BusError α → Except CacheError α
  | .ok value => .ok value
  | .error error => .error (.bus error)

/-- Continue with the value of a call; an error ends the call. -/
def onOk {α γ σ : Type} (out : Except CacheError α × σ)
    (next : α → σ → Except CacheError γ × σ) : Except CacheError γ × σ :=
  match out with
  | (.ok value, state) => next value state
  | (.error error, state) => (.error error, state)

/-- The answer of a call under a function. -/
def mapAnswer {α γ σ : Type} (f : α → γ) (out : Except CacheError α × σ) :
    Except CacheError γ × σ := (out.1.map f, out.2)

section

variable {α γ δ σ : Type}

theorem onOk_onOk (out : Except CacheError α × σ) (next : α → σ → Except CacheError γ × σ)
    (last : γ → σ → Except CacheError δ × σ) :
    onOk (onOk out next) last = onOk out fun value state => onOk (next value state) last := by
  rcases out with ⟨_ | _, _⟩ <;> rfl

theorem mapAnswer_onOk (f : γ → δ) (out : Except CacheError α × σ)
    (next : α → σ → Except CacheError γ × σ) :
    mapAnswer f (onOk out next) = onOk out fun value state => mapAnswer f (next value state) := by
  rcases out with ⟨_ | _, _⟩ <;> rfl

theorem mapAnswer_mapAnswer (f : γ → δ) (g : α → γ) (out : Except CacheError α × σ) :
    mapAnswer f (mapAnswer g out) = mapAnswer (fun value => f (g value)) out := by
  rcases out with ⟨_ | _, _⟩ <;> rfl

theorem mapAnswer_ofBus (f : α → γ) (answer : Except BusError α) (state : σ) :
    mapAnswer f (ofBus answer, state) = (ofBus (answer.map f), state) := by
  rcases answer with _ | _ <;> rfl

end

/-- `Option::expect`. -/
def expectSome {α : Type} (message : String) : Option α → Except CacheError α
  | some value => .ok value
  | none => .error (.panic message)

/-! ## What holds when a call ends -/

section Ends

variable {α γ σ τ : Type} {fault : Prop}

/-- A call that gives a value ends in `done`, one that gives an error of the bus ends in `failed`, and
only under `fault` does a call not return. -/
def Ends (fault : Prop) (out : Except CacheError α × σ) (done : α → σ → Prop)
    (failed : BusError → σ → Prop) : Prop :=
  match out.1 with
  | .ok value => done value out.2
  | .error (.bus error) => failed error out.2
  | .error _ => fault

variable {out : Except CacheError α × σ} {done : α → σ → Prop} {failed : BusError → σ → Prop}

theorem Ends.imp (h : Ends fault out done failed) {done' : α → σ → Prop}
    {failed' : BusError → σ → Prop} (hdone : ∀ value state, done value state → done' value state)
    (hfailed : ∀ error state, failed error state → failed' error state) :
    Ends fault out done' failed' := by
  obtain ⟨(_ | _ | _) | value, state⟩ := out
  · exact hfailed _ _ h
  · exact h
  · exact h
  · exact hdone _ _ h

theorem Ends.onOk (h : Ends fault out done failed) {next : α → σ → Except CacheError γ × σ}
    {done' : γ → σ → Prop} (hnext : ∀ value state, done value state →
      Ends fault (next value state) done' failed) :
    Ends fault (RvSim.onOk out next) done' failed := by
  obtain ⟨(_ | _ | _) | value, state⟩ := out
  · exact h
  · exact h
  · exact h
  · exact hnext _ _ h

theorem Ends.mapAnswer (h : Ends fault out done failed) {f : α → γ} {done' : γ → σ → Prop}
    (hdone : ∀ value state, done value state → done' (f value) state) :
    Ends fault (RvSim.mapAnswer f out) done' failed := by
  obtain ⟨(_ | _ | _) | value, state⟩ := out
  · exact h
  · exact h
  · exact h
  · exact hdone _ _ h

/-- The state behind a call can be seen as part of a larger one. -/
theorem Ends.under (h : Ends fault out done failed) {f : σ → τ} {done' : α → τ → Prop}
    {failed' : BusError → τ → Prop} (hdone : ∀ value state, done value state → done' value (f state))
    (hfailed : ∀ error state, failed error state → failed' error (f state)) :
    Ends fault (out.1, f out.2) done' failed' := by
  obtain ⟨(_ | _ | _) | value, state⟩ := out
  · exact hfailed _ _ h
  · exact h
  · exact h
  · exact hdone _ _ h

theorem ends_ofBus {answer : Except BusError α} {state : σ}
    (hdone : ∀ value, answer = .ok value → done value state)
    (hfailed : ∀ error, answer = .error error → failed error state) :
    Ends fault (ofBus answer, state) done failed := by
  rcases answer with error | value
  · exact hfailed _ rfl
  · exact hdone _ rfl

theorem ends_expectSome {message : String} {option : Option α} {state : σ}
    (hsome : ∀ value, option = some value → done value state) (hnone : option = none → fault) :
    Ends fault (expectSome message option, state) done failed := by
  cases option with
  | none => exact hnone rfl
  | some value => exact hsome value rfl

/-- What holds however a call ends, holds behind a call that returned. -/
theorem Ends.of_returned {P : σ → Prop} (h : Ends True out (fun _ => P) fun _ => P)
    (hreturned : Returned out.1) : P out.2 := by
  obtain ⟨(_ | _ | _) | value, state⟩ := out
  · exact h
  · obtain ⟨_, herror⟩ := hreturned _ rfl
    cases herror
  · obtain ⟨_, herror⟩ := hreturned _ rfl
    cases herror
  · exact h

/-- What holds however a call that returns ends. -/
theorem Ends.always {P : σ → Prop} (h : Ends False out (fun _ => P) fun _ => P) : P out.2 := by
  obtain ⟨(_ | _ | _) | value, state⟩ := out
  · exact h
  · exact h.elim
  · exact h.elim
  · exact h

end Ends

end RvSim
