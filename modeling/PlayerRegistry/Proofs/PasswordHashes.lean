import PlayerRegistry.Credentials

/-!
# Kept passwords

A password fits what is kept of one if it has the same hash under the same salt. Hashing and
checking go wrong only where the salt is too short.
-/

namespace PlayerRegistry

namespace Bytes

theorem size_pushLe64 (b : ByteArray) (w : UInt64) : (pushLe64 b w).size = b.size + 8 := by
  simp [pushLe64, pushLe32]

theorem size_foldl_pushLe64 (ws : Array UInt64) (b : ByteArray) :
    (ws.foldl pushLe64 b).size = b.size + 8 * ws.size := by
  obtain ⟨ws⟩ := ws
  rw [List.foldl_toArray, List.size_toArray]
  induction ws generalizing b with
  | nil => rfl
  | cons w ws ih =>
    rw [List.foldl_cons, ih, size_pushLe64, List.length_cons]
    omega

end Bytes

namespace Blake2b

theorem size_addBlock (msg : ByteArray) (h : Array UInt64) (i count : Nat) (last : Bool) :
    (addBlock msg h i count last).size = 8 := by simp [addBlock]

theorem size_hash {size : Nat} (short : size ≤ 64) (msg : ByteArray) :
    (hash size msg).size = size := by
  rw [hash, ByteArray.size_extract, Bytes.size_foldl_pushLe64, size_addBlock, ByteArray.size_empty]
  omega

end Blake2b

namespace Credentials

/-- The password has the hash that is kept. -/
def Fits (c : Credentials) (password : String) (kept : PasswordHash) : Prop :=
  Argon2.hash c.cost hashLength password.toUTF8 kept.salt = kept.hash

theorem Fits.size {c : Credentials} {password : String} {kept : PasswordHash}
    (fits : c.Fits password kept) : kept.hash.size = hashLength := by
  rw [← fits, Argon2.hash, Argon2.longHash, if_pos (by decide)]
  exact Blake2b.size_hash (by decide) _

theorem hashPassword_of_long (c : Credentials) (password : String) {salt : ByteArray}
    (long : 8 ≤ salt.size) :
    c.hashPassword password salt = .ok (Argon2.hash c.cost hashLength password.toUTF8 salt) := by
  rw [hashPassword, if_neg (by omega)]

theorem hashPassword_of_short (c : Credentials) (password : String) {salt : ByteArray}
    (short : salt.size < 8) :
    c.hashPassword password salt =
      .error (.internal "Password hashing failed: salt too short") := by
  rw [hashPassword, if_pos short]

theorem newPassword_of_long (c : Credentials) (password : String) {salt : ByteArray}
    (long : 8 ≤ salt.size) : c.newPassword password salt =
      .ok ⟨salt, Argon2.hash c.cost hashLength password.toUTF8 salt⟩ := by
  rw [newPassword, c.hashPassword_of_long password long]
  rfl

theorem newPassword_eq_ok {c : Credentials} {password : String} {salt : ByteArray}
    {kept : PasswordHash} (h : c.newPassword password salt = .ok kept) :
    8 ≤ salt.size ∧ kept.salt = salt ∧ c.Fits password kept := by
  by_cases long : 8 ≤ salt.size
  · rw [c.newPassword_of_long password long] at h
    obtain rfl := Except.ok.inj h
    exact ⟨long, rfl, rfl⟩
  · rw [newPassword, c.hashPassword_of_short password (by omega)] at h
    cases h

theorem newPassword_eq_error {c : Credentials} {password : String} {salt : ByteArray} {e : Error}
    (h : c.newPassword password salt = .error e) : salt.size < 8 ∧ ∃ text, e = .internal text := by
  by_cases long : 8 ≤ salt.size
  · rw [c.newPassword_of_long password long] at h
    cases h
  · have short : salt.size < 8 := by omega
    rw [newPassword, c.hashPassword_of_short password short] at h
    exact ⟨short, _, (Except.error.inj h).symm⟩

theorem verify_of_long (c : Credentials) (password : String) {kept : PasswordHash}
    (long : 8 ≤ kept.salt.size) :
    ∃ valid, c.verify password kept = .ok valid ∧ (valid = true ↔ c.Fits password kept) := by
  rw [verify, c.hashPassword_of_long password long]
  refine ⟨_, rfl, ?_⟩
  rw [Fits, ByteArray.ext_iff]
  generalize Argon2.hash c.cost hashLength password.toUTF8 kept.salt = hash
  change (hash.data == kept.hash.data) = true ↔ _
  exact beq_iff_eq

theorem verify_iff {c : Credentials} {password : String} {kept : PasswordHash} :
    c.verify password kept = .ok true ↔ 8 ≤ kept.salt.size ∧ c.Fits password kept := by
  by_cases long : 8 ≤ kept.salt.size
  · obtain ⟨valid, verified, fits⟩ := c.verify_of_long password long
    rw [verified, Except.ok.injEq, fits]
    simp [long]
  · rw [verify, c.hashPassword_of_short password (by omega)]
    simp [Except.map, long]

theorem newPassword_verify {c : Credentials} {password : String} {salt : ByteArray}
    {kept : PasswordHash} (h : c.newPassword password salt = .ok kept) :
    c.verify password kept = .ok true := by
  obtain ⟨long, rfl, fits⟩ := newPassword_eq_ok h
  exact verify_iff.mpr ⟨long, fits⟩

end Credentials

end PlayerRegistry
