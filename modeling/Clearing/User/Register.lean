import Clearing.Operation
import Clearing.Outbox.Task

/-!
# Registering and verifying users

Registering a user writes the user and, in the same transaction, the outbox row of the mail that carries the
verification code: a registration that is rolled back mails nothing, and one that is committed is never
forgotten. Returning the code uses it up and marks its user as verified.
-/

namespace Clearing

namespace Registration

/-- The mail task of a registration. -/
def task (r : Registration) (options : TaskOptions) : OutboxTask :=
  options.message verifyEmailTaskType (json (VerifyEmailPayload.mk r.email))

/-- The unit of work that registers a user. -/
def work (options : TaskOptions) (r : Registration) : Work RegisteredUser := do
  let user ← Work.query (.insertUser r) "failed to create user"
  let row ← Work.query (.insertOutbox (r.task options)) "failed to enqueue verification email"
  return { user, outboxId := row.id }

/-- Registers a user. -/
def register (options : TaskOptions) (r : Registration) : Operation RegisteredUser where
  name := "create_user"
  work := r.work options
  report u := [.userRegistered u]

end Registration

namespace Verification

/-- The unit of work that uses up a code and marks its user. -/
def work (id : Int) (secretCode : String) : Work VerifiedUser := do
  let verification ← Work.query (.consumeVerification id secretCode)
    "failed to consume verification code"
  let user ← Work.query (.markUserVerified verification.username) "failed to mark user verified"
  return { user, verification }

/-- Verifies a user by the code of a verification. -/
def verify (id : Int) (secretCode : String) : Operation VerifiedUser where
  name := "verify_email"
  work := work id secretCode
  report v := [.emailVerified v.user.id id]

end Verification
end Clearing
