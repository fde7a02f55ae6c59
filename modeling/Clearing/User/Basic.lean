import Clearing.Json.Codec

/-!
# Users and email verification

A user registers with a name, an email and a hashed password, and is verified once the code mailed to them
comes back. Password hashes and codes are read from JSON and never written to it.
-/

namespace Clearing

/-- What a user may do. -/
inductive UserRole where
  | admin
  | user
deriving DecidableEq

instance : Named UserRole where
  all := [.admin, .user]
  name
    | .admin => "admin"
    | .user => "user"

/-- A registered user. -/
structure User where
  id : Uuid
  username : String
  email : String
  passwordHash : String
  role : UserRole
  isVerified : Bool
  createdAt : Instant
deriving DecidableEq

/-- A user to be registered; the password is hashed already. -/
structure Registration where
  username : String
  email : String
  passwordHash : String
  role : UserRole
deriving DecidableEq

/-- A code that verifies a user's email once, until it expires. -/
structure Verification where
  id : Int
  username : String
  email : String
  secretCode : String
  isUsed : Bool
  createdAt : Instant
  expiredAt : Instant
deriving DecidableEq

/-- What registering a user leaves behind: the user and the number of the queued mail. -/
structure RegisteredUser where
  user : User
  outboxId : Int
deriving DecidableEq

/-- What a returned code leaves behind: the verified user and the used code. -/
structure VerifiedUser where
  user : User
  verification : Verification
deriving DecidableEq

namespace Registration

/-- The user that a registration creates. -/
def toUser (r : Registration) (id : Uuid) (now : Instant) : User where
  id := id
  username := r.username
  email := r.email
  passwordHash := r.passwordHash
  role := r.role
  isVerified := false
  createdAt := now

end Registration

namespace User

/-- The names of the fields, in order. -/
def fieldNames : List String :=
  ["id", "username", "email", "password_hash", "role", "is_verified", "created_at"]

instance : Encode User where
  json u := .object [
    ("id", json u.id), ("username", json u.username), ("email", json u.email),
    ("role", json u.role), ("is_verified", json u.isVerified), ("created_at", json u.createdAt)]

instance : Decode User where
  ofJson? v := do
    let ms ← Json.fullRecord? fieldNames v
    some {
      id := ← Json.field? ms "id"
      username := ← Json.field? ms "username"
      email := ← Json.field? ms "email"
      passwordHash := ← Json.field? ms "password_hash"
      role := ← Json.field? ms "role"
      isVerified := ← Json.field? ms "is_verified"
      createdAt := ← Json.field? ms "created_at" }

end User

namespace Verification

/-- Whether the code can be used at this time: it is the one presented, unused and not expired. -/
def isUsableWith (v : Verification) (code : String) (now : Instant) : Bool :=
  v.secretCode == code && !v.isUsed && now.before v.expiredAt

/-- The names of the fields, in order. -/
def fieldNames : List String :=
  ["id", "username", "email", "secret_code", "is_used", "created_at", "expired_at"]

instance : Encode Verification where
  json v := .object [
    ("id", json v.id), ("username", json v.username), ("email", json v.email),
    ("is_used", json v.isUsed), ("created_at", json v.createdAt), ("expired_at", json v.expiredAt)]

instance : Decode Verification where
  ofJson? v := do
    let ms ← Json.fullRecord? fieldNames v
    some {
      id := ← Json.fieldWith? Json.int64? ms "id"
      username := ← Json.field? ms "username"
      email := ← Json.field? ms "email"
      secretCode := ← Json.field? ms "secret_code"
      isUsed := ← Json.field? ms "is_used"
      createdAt := ← Json.field? ms "created_at"
      expiredAt := ← Json.field? ms "expired_at" }

end Verification

instance : Encode RegisteredUser where
  json r := .object [("user", json r.user), ("outbox_id", json r.outboxId)]

instance : Encode VerifiedUser where
  json v := .object [("user", json v.user), ("verify_email", json v.verification)]

end Clearing
