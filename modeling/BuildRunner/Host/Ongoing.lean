set_option autoImplicit false

/-! # Letting time pass

Something that goes on as long as somebody waits for it: it takes steps while it can, then it
lets the world around it do what that can do now, and when neither is possible the clock goes on
to the next moment at which anything is.
-/

namespace BuildRunner.Host

/-- How something goes on. -/
structure Ongoing (σ : Type) where
  /-- Takes steps; whether there were any. -/
  poll : σ → Bool × σ
  /-- Lets the world do what it can do now; whether the world is at rest afterwards. -/
  pull : σ → Bool × σ
  /-- The next moment, at most the given one; nothing if nobody waits for the clock. -/
  later? : Option Nat → σ → Option σ
  clock : σ → Nat

namespace Ongoing

/-- Lets time pass until a goal or a limit is reached, or nothing can happen any more. -/
def await {σ : Type} (o : Ongoing σ) (goal : σ → Bool) (limit : Option Nat) : Nat → σ → σ
  | 0, x => x
  | fuel + 1, x =>
    if goal x then x
    else
      match o.poll x with
      | (true, x) => await o goal limit fuel x
      | (false, x) =>
        let (rests, x) := o.pull x
        match o.poll x with
        | (true, x) => await o goal limit fuel x
        | (false, x) =>
          if limit.any (· ≤ o.clock x) then x
          else if !rests then await o goal limit fuel x
          else
            match o.later? limit x with
            | some x => await o goal limit fuel x
            | none => x

/-- How often something may be asked during one wait. -/
def patience : Nat := 1000000

/-- Lets time pass until a goal is reached or nothing can happen any more. -/
def reach {σ : Type} (o : Ongoing σ) (goal : σ → Bool) (x : σ) : σ := o.await goal none patience x

/-- Lets time pass until a goal is reached, at most for some time. -/
def within {σ : Type} (o : Ongoing σ) (goal : σ → Bool) (time : Nat) (x : σ) : σ :=
  o.await goal (some (o.clock x + time)) patience x

end Ongoing
end BuildRunner.Host
