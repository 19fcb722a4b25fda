/-!
# Attempts

An attempt is what comes of a computation that sends something: its result, or why there is
none, and all that was sent for it. Steps are taken one after the other, and what each of
them sends is added at the end; behind a step that fails, nothing more is sent.
-/

namespace ServingPreset

/-- What comes of a computation that sends something. -/
structure Attempt (Sent Failure Result : Type) where
  result : Except Failure Result
  /-- What was sent, in order. -/
  sent : List Sent

namespace Attempt

variable {Sent Failure Other Result Later : Type}

/-- An outcome for which nothing is sent. -/
def ofExcept (outcome : Except Failure Result) : Attempt Sent Failure Result :=
  ⟨outcome, []⟩

/-- The attempt with its failure told in other words. -/
def mapError (retell : Failure → Other) (attempt : Attempt Sent Failure Result) :
    Attempt Sent Other Result :=
  ⟨attempt.result.mapError retell, attempt.sent⟩

/-- Go on from the result, if there is one. -/
def bind (attempt : Attempt Sent Failure Result)
    (next : Result → Attempt Sent Failure Later) : Attempt Sent Failure Later :=
  match attempt.result with
  | .ok value =>
      let later := next value
      ⟨later.result, attempt.sent ++ later.sent⟩
  | .error failure => ⟨.error failure, attempt.sent⟩

instance : Monad (Attempt Sent Failure) where
  pure value := ofExcept (.ok value)
  bind := bind

end Attempt

end ServingPreset
