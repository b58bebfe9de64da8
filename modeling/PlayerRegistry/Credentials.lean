import PlayerRegistry.Account.Basic
import PlayerRegistry.Digest.Argon2

/-!
# Credentials

Passwords are kept as Argon2id hashes under a salt of their own.
-/

namespace PlayerRegistry

/-- How passwords are hashed, and how long they have to be. -/
structure Credentials where
  cost : Argon2.Cost
  minLength : Nat

namespace Credentials

def defaultCost : Argon2.Cost := ⟨19456, 2, 1⟩

def hashLength : Nat := 32

/-- A salt that is too short to be hashed with is an internal error. -/
def hashPassword (c : Credentials) (password : String) (salt : ByteArray) : Result ByteArray :=
  if salt.size < 8 then .error (.internal "Password hashing failed: salt too short")
  else .ok (Argon2.hash c.cost hashLength password.toUTF8 salt)

def verify (c : Credentials) (password : String) (stored : PasswordHash) : Result Bool :=
  (c.hashPassword password stored.salt).map fun hash => hash == stored.hash

/-- The empty password is never long enough. -/
def isValidPassword (c : Credentials) (password : String) : Bool :=
  password ≠ "" && c.minLength ≤ password.length

/-- The password as it is kept, under a fresh salt. -/
def newPassword (c : Credentials) (password : String) (salt : ByteArray) : Result PasswordHash :=
  (c.hashPassword password salt).map fun hash => ⟨salt, hash⟩

end Credentials

end PlayerRegistry
