import ContainerBridge.Library.Carry

/-! A caller that is handed a callback: it calls it any number of times, each time with an argument
that may depend on the replies so far, and then returns. Nothing else is known of it. -/

/-- A caller of a callback from `Arg` to `Reply`, which returns a `Result`. -/
inductive Caller (Arg Reply Result : Type) where
  | returns (result : Result)
  | calls (arg : Arg) (next : Reply → Caller Arg Reply Result)

namespace Caller

open Carry

variable {ε σ Arg Reply Event Result : Type}

/-- What one call of a callback did, its reply, and the state it left. -/
abbrev Callback (ε σ Arg Reply Event : Type) := σ → Arg → Except ε (Event × Reply × σ)

/-- What the calls did, in order, what the caller returned, and the state the last one left. -/
def run (callback : Callback ε σ Arg Reply Event) :
    Caller Arg Reply Result → σ → Except ε (List Event × Result × σ)
  | .returns result, state => .ok ([], result, state)
  | .calls arg next, state => do
    let (event, reply, state) ← callback state arg
    let (events, returned) ← (next reply).run callback state
    return (event :: events, returned)

/-- What each call preserves, of the calls so far and the state they left, holds when the caller
returns, whatever caller it is. -/
theorem run_preserves {callback : Callback ε σ Arg Reply Event} (Inv : List Event → σ → Prop)
    (hstep : ∀ events state arg called, Inv events state → callback state arg = .ok called →
      Inv (events ++ [called.1]) called.2.2)
    (caller : Caller Arg Reply Result) {state state' : σ} {events : List Event} {result : Result}
    (hstart : Inv [] state) (hrun : caller.run callback state = .ok (events, result, state')) :
    Inv events state' := by
  suffices ∀ done, Inv done state → Inv (done ++ events) state' from this [] hstart
  clear hstart
  induction caller generalizing state events with
  | returns result =>
    cases hrun
    intro done h
    simpa using h
  | calls arg next ih =>
    obtain ⟨⟨event, reply, state₁⟩, hcall, hrest⟩ := bind_eq_ok.mp hrun
    obtain ⟨⟨rest, returned⟩, hrest, hmade⟩ := bind_eq_ok.mp hrest
    cases hmade
    intro done h
    have := ih reply hrest (done ++ [event]) (hstep done state arg (event, reply, state₁) h hcall)
    simpa using this

/-- A caller returns whose every call is replied to. -/
theorem run_returns (callback : Callback ε σ Arg Reply Event)
    (h : ∀ state arg, ∃ called, callback state arg = .ok called)
    (caller : Caller Arg Reply Result) (state : σ) :
    ∃ events result state', caller.run callback state = .ok (events, result, state') := by
  induction caller generalizing state with
  | returns result => exact ⟨[], result, state, rfl⟩
  | calls arg next ih =>
    obtain ⟨⟨event, reply, state₁⟩, hcall⟩ := h state arg
    obtain ⟨events, result, state', hrun⟩ := ih reply state₁
    refine ⟨event :: events, result, state', ?_⟩
    simp [run, hcall, hrun]

end Caller
