import Mathlib.Data.ENat.Basic
import Mathlib.Logic.Relation
import PlayerRegistry.Proofs.KeyDocuments
import PlayerRegistry.Proofs.Work
import PlayerRegistry.SigningKey.File

/-!
# One key for all loads

Loads of the key that run side by side and after one another, in any interleaving of their steps.
Only a load that finds no file makes one, and only one load can. Until that load has written all of
its key the others find nothing that they could take for a key; from then on they find this key, and
nothing changes it any more.
-/

namespace PlayerRegistry.KeyFile

/-- The key that a load would read. -/
def Place.key? : Place → Option SigningKey
  | .file bytes => (SigningKey.ofDer bytes).toOption
  | _ => none

/-- The path of the key and the loads of it. -/
structure Loads where
  place : Place
  /-- How far each load has come. One that has not begun is at its start. -/
  phase : Nat → Phase
  /-- How often a file has been made. -/
  made : Nat

namespace Loads

def start (place : Place) : Loads := ⟨place, fun _ => .start, 0⟩

/-- One load takes a step. It names the path in its own way, and the key that it makes, if it makes
one, is drawn from a source. -/
def next (x : Loads) (i : Nat) (path : String) (source : RandomSource) (bits piece : Nat) : Loads :=
  let moved := step path (fun _ => SigningKey.generate source bits) piece x.place (x.phase i)
  { place := moved.1
    phase := Function.update x.phase i moved.2
    made := if x.place = .missing ∧ moved.1 ≠ .missing then x.made + 1 else x.made }

inductive Next (x : Loads) : Loads → Prop where
  | step (i : Nat) (path : String) (source : RandomSource) (bits piece : Nat) :
    Next x (x.next i path source bits piece)

abbrev Later : Loads → Loads → Prop := Relation.ReflTransGen Next

/-- There is something at the path, and no load has still to write to it. -/
def Complete (x : Loads) : Prop :=
  x.place ≠ .missing ∧ ∀ i key rest, x.phase i = .writing key rest → rest.size = 0

end Loads

/-- A load that does not write, while this key could be read. -/
def Phase.Agrees (found : Option SigningKey) : Phase → Prop
  | .start => True
  | .creating key => SigningKey.ofDer key.der = .ok key
  | .writing _ _ => False
  | .finished (.ok key) => found = some key
  | .finished (.error e) => ∃ text, e = .key text

theorem Phase.Agrees.of_none {phase : Phase} (h : phase.Agrees none) (found : Option SigningKey) :
    phase.Agrees found := by
  cases phase with
  | finished result =>
    cases result with
    | ok key => cases h
    | error e => exact h
  | _ => exact h

theorem Phase.agrees_of_read (bytes : ByteArray) :
    (Phase.finished (SigningKey.ofDer bytes)).Agrees (Place.file bytes).key? := by
  rw [Place.key?]
  rcases SigningKey.ofDer_cases bytes with ⟨text, he⟩ | ⟨k, -, he⟩ <;> rw [he]
  · exact ⟨text, rfl⟩
  · rfl

theorem Place.key?_eq_some {place : Place} {key : SigningKey} (h : place.key? = some key) :
    place = .file key.der ∧ SigningKey.ofDer key.der = .ok key := by
  cases place with
  | file bytes =>
    have read : SigningKey.ofDer bytes = .ok key := ok_of_toOption h
    rw [SigningKey.der_of_ofDer read]
    exact ⟨rfl, read⟩
  | missing => cases h
  | obstacle => cases h

variable {path : String} {source : RandomSource} {bits piece : Nat} {place : Place} {phase : Phase}

/-- A load that does not write leaves the path as it is, or it makes the file. -/
theorem step_of_agrees (h : phase.Agrees place.key?) (path : String) (source : RandomSource)
    (bits piece : Nat) :
    (∃ phase', step path (fun _ => SigningKey.generate source bits) piece place phase =
        (place, phase') ∧ phase'.Agrees place.key?) ∨
      ∃ key, place = .missing ∧ SigningKey.ofDer key.der = .ok key ∧
        step path (fun _ => SigningKey.generate source bits) piece place phase =
          (.file .empty, .writing key key.der) := by
  cases phase with
  | start =>
    cases place with
    | file bytes => exact .inl ⟨_, rfl, Phase.agrees_of_read bytes⟩
    | obstacle => exact .inl ⟨_, rfl, _, rfl⟩
    | missing =>
      cases made : SigningKey.generate source bits with
      | ok key => exact .inl ⟨.creating key, by simp [step], SigningKey.ofDer_generate made⟩
      | error e =>
        refine .inl ⟨.finished (.error e), by simp [step], ?_⟩
        rcases SigningKey.generate_cases source bits with ⟨text, he⟩ | ⟨k, -, -, he⟩
        · rw [he] at made
          exact ⟨text, (Except.error.inj made).symm⟩
        · rw [he] at made
          cases made
  | creating key =>
    cases place with
    | missing => exact .inr ⟨key, rfl, h, rfl⟩
    | file bytes => exact .inl ⟨_, rfl, _, rfl⟩
    | obstacle => exact .inl ⟨_, rfl, _, rfl⟩
  | writing key rest => exact h.elim
  | finished result =>
    cases place with
    | missing => exact .inl ⟨_, rfl, h⟩
    | file bytes => exact .inl ⟨_, rfl, h⟩
    | obstacle => exact .inl ⟨_, rfl, h⟩

namespace Loads

/-- Either no load writes, or one does, and what it has still to write is what the file lacks. -/
inductive Ordered (x : Loads) : Prop where
  | settled : (∀ i, (x.phase i).Agrees x.place.key?) → x.made ≤ 1 →
      (x.place = .missing → x.made = 0) → Ordered x
  | writing {i key bytes rest} : x.place = .file bytes → x.phase i = .writing key rest →
      SigningKey.ofDer key.der = .ok key → bytes ++ rest = key.der →
      (∀ j, j ≠ i → (x.phase j).Agrees x.place.key?) → x.made = 1 → Ordered x

/-- A load leaves the path as it is, makes the file, or writes the next piece of its key. -/
inductive Moves (x : Loads) (i n : Nat) : Place × Phase → Prop where
  | still {p : Phase} : p.Agrees x.place.key? → Moves x i n (x.place, p)
  | makes {key} : x.place = .missing → SigningKey.ofDer key.der = .ok key →
      Moves x i n (.file .empty, .writing key key.der)
  | writes {key bytes rest} : x.place = .file bytes → x.phase i = .writing key rest →
      rest.size ≠ 0 → SigningKey.ofDer key.der = .ok key → bytes ++ rest = key.der →
      (∀ j, j ≠ i → (x.phase j).Agrees x.place.key?) → x.made = 1 →
      Moves x i n (.file (bytes ++ rest.extract 0 (n + 1)),
        .writing key (rest.extract (n + 1) rest.size))

theorem ordered_start (place : Place) : (start place).Ordered :=
  .settled (fun _ => trivial) (Nat.zero_le 1) fun _ => rfl

variable {x y : Loads}

theorem agrees_update {f : Nat → Phase} {i j : Nat} {phase : Phase} {found : Option SigningKey}
    (now : j = i → phase.Agrees found) (before : j ≠ i → (f j).Agrees found) :
    (Function.update f i phase j).Agrees found := by
  by_cases same : j = i
  · rw [same, Function.update_self]
    exact now same
  · rw [Function.update_of_ne same]
    exact before same

theorem next_eq {i : Nat} {place : Place} {phase : Phase}
    (moved : step path (fun _ => SigningKey.generate source bits) piece x.place (x.phase i) =
      (place, phase)) :
    x.next i path source bits piece = ⟨place, Function.update x.phase i phase,
      if x.place = .missing ∧ place ≠ .missing then x.made + 1 else x.made⟩ := by
  rw [next, moved]

/-- A load that leaves the path as it is makes nothing. -/
theorem next_of_still {i : Nat} {phase : Phase}
    (moved : step path (fun _ => SigningKey.generate source bits) piece x.place (x.phase i) =
      (x.place, phase)) :
    x.next i path source bits piece = ⟨x.place, Function.update x.phase i phase, x.made⟩ := by
  rw [next_eq moved, if_neg fun h => h.2 h.1]

/-- The file lacks something as long as it cannot be read. -/
theorem key?_of_lacking {bytes rest : ByteArray} {key : SigningKey}
    (sound : SigningKey.ofDer key.der = .ok key) (whole : bytes ++ rest = key.der)
    (lacking : rest.size ≠ 0) : (Place.file bytes).key? = none := by
  rw [← whole] at sound
  obtain ⟨text, early⟩ := SigningKey.ofDer_prefix sound lacking
  rw [Place.key?, early]
  rfl

theorem Ordered.moves (h : x.Ordered) (i : Nat) (path : String) (source : RandomSource)
    (bits piece : Nat) :
    x.Moves i piece
      (step path (fun _ => SigningKey.generate source bits) piece x.place (x.phase i)) := by
  have reads : (x.phase i).Agrees x.place.key? →
      x.Moves i piece
        (step path (fun _ => SigningKey.generate source bits) piece x.place (x.phase i)) := by
    intro agrees
    rcases step_of_agrees agrees path source bits piece with
      ⟨phase, moved, agrees⟩ | ⟨key, missing, sound, moved⟩
    · rw [moved]
      exact .still agrees
    · rw [moved]
      exact .makes missing sound
  cases h with
  | settled agree => exact reads (agree i)
  | @writing w key bytes rest file writes sound whole others made =>
    by_cases own : i = w
    · subst own
      by_cases done : rest.size = 0
      · have ended : bytes = key.der := by
          rw [← whole, ByteArray.size_eq_zero_iff.mp done, ByteArray.append_empty]
        have moved : step path (fun _ => SigningKey.generate source bits) piece x.place
            (x.phase i) = (x.place, .finished (.ok key)) := by
          rw [file, writes, step, if_pos done]
        have found : x.place.key? = some key := by
          rw [file, Place.key?, ended, sound]
          rfl
        rw [moved]
        exact .still found
      · have moved : step path (fun _ => SigningKey.generate source bits) piece x.place
            (x.phase i) = (.file (bytes ++ rest.extract 0 (piece + 1)),
              .writing key (rest.extract (piece + 1) rest.size)) := by
          rw [file, writes, step, if_neg done]
        rw [moved]
        exact .writes file writes done sound whole others made
    · exact reads (others i own)

theorem Ordered.next (h : x.Ordered) (next : Next x y) : y.Ordered := by
  obtain ⟨i, path, source, bits, piece⟩ := next
  have moves := h.moves i path source bits piece
  generalize moved : step path (fun _ => SigningKey.generate source bits) piece x.place
    (x.phase i) = result at moves
  cases moves with
  | still agrees =>
    rw [next_of_still moved]
    cases h with
    | settled agree made unmade =>
      exact .settled (fun j => agrees_update (fun _ => agrees) fun _ => agree j) made unmade
    | @writing w key bytes rest file writes sound whole others made =>
      by_cases own : i = w
      · subst own
        refine .settled (fun j => agrees_update (fun _ => agrees) (others j)) made.le ?_
        intro missing
        rw [file] at missing
        cases missing
      · refine .writing file (i := w) ?_ sound whole ?_ made
        · rw [← writes]
          exact Function.update_of_ne (Ne.symm own) ..
        · intro j other
          exact agrees_update (fun _ => agrees) fun _ => others j other
  | makes missing sound =>
    have found : x.place.key? = none := by
      rw [missing]
      rfl
    cases h with
    | settled agree made unmade =>
      rw [next_eq moved, if_pos ⟨missing, nofun⟩]
      refine .writing rfl (Function.update_self ..) sound ByteArray.empty_append ?_ ?_
      · intro j other
        exact agrees_update (fun same => absurd same other) fun _ => (found ▸ agree j).of_none _
      · dsimp only
        rw [unmade missing]
    | writing file =>
      rw [file] at missing
      cases missing
  | writes file writes lacking sound whole others made =>
    have found : x.place.key? = none := by
      rw [file]
      exact key?_of_lacking sound whole lacking
    rw [next_eq moved, if_neg fun h => by rw [file] at h; cases h.1]
    refine .writing rfl (Function.update_self ..) sound ?_ ?_ made
    · rw [ByteArray.append_assoc, ByteArray.extract_append_extract, Nat.zero_min,
        ByteArray.extract_zero_max_size, whole]
    · intro j other
      exact agrees_update (fun same => absurd same other) fun _ =>
        (found ▸ others j other).of_none _

theorem Later.ordered (later : Later x y) (h : x.Ordered) : y.Ordered := by
  induction later with
  | refl => exact h
  | tail _ next ih => exact ih.next next

theorem complete_start {place : Place} (there : place ≠ .missing) : (start place).Complete :=
  ⟨there, fun _ _ _ writes => by cases writes⟩

/-- Once the file is complete nothing is written, and nothing is made. -/
theorem Ordered.next_complete (h : x.Ordered) (complete : x.Complete) (next : Next x y) :
    y.place = x.place ∧ y.made = x.made ∧ y.Complete := by
  obtain ⟨i, path, source, bits, piece⟩ := next
  obtain ⟨there, written⟩ := complete
  have moves := h.moves i path source bits piece
  generalize moved : step path (fun _ => SigningKey.generate source bits) piece x.place
    (x.phase i) = result at moves
  cases moves with
  | @still phase agrees =>
    rw [next_of_still moved]
    refine ⟨rfl, rfl, there, fun j key rest writes => ?_⟩
    have writes : Function.update x.phase i phase j = .writing key rest := writes
    by_cases same : j = i
    · rw [same, Function.update_self] at writes
      rw [writes] at agrees
      exact agrees.elim
    · rw [Function.update_of_ne same] at writes
      exact written j key rest writes
  | makes missing => exact absurd missing there
  | writes _ writes lacking => exact absurd (written i _ _ writes) lacking

theorem Later.complete (later : Later x y) (h : x.Ordered) (complete : x.Complete) :
    y.place = x.place ∧ y.made = x.made ∧ y.Complete := by
  induction later with
  | refl => exact ⟨rfl, rfl, complete⟩
  | tail earlier next ih =>
    obtain ⟨place, made, complete⟩ := ih
    obtain ⟨place', made', complete'⟩ := (Later.ordered earlier h).next_complete complete next
    exact ⟨place'.trans place, made'.trans made, complete'⟩

theorem Ordered.made_le (h : x.Ordered) : x.made ≤ 1 := by
  cases h with
  | settled _ made _ => exact made
  | writing _ _ _ _ _ made => exact made.le

/-- A load that has succeeded has the key that is in the file, all of it. -/
theorem Ordered.of_success (h : x.Ordered) {i : Nat} {key : SigningKey}
    (success : x.phase i = .finished (.ok key)) :
    x.place = .file key.der ∧ SigningKey.ofDer key.der = .ok key ∧ x.Complete := by
  have there : x.place = .file key.der → x.place ≠ .missing := fun file => by
    rw [file]
    exact nofun
  cases h with
  | settled agree =>
    have found := agree i
    rw [success] at found
    obtain ⟨file, sound⟩ := Place.key?_eq_some found
    refine ⟨file, sound, there file, fun j key rest writes => ?_⟩
    have quiet := agree j
    rw [writes] at quiet
    exact quiet.elim
  | @writing w key' bytes rest file writes sound whole others =>
    have other : i ≠ w := by
      rintro rfl
      rw [success] at writes
      cases writes
    have found := others i other
    rw [success] at found
    obtain ⟨file', sound'⟩ := Place.key?_eq_some found
    refine ⟨file', sound', there file', fun j key'' rest' writes' => ?_⟩
    by_cases same : j = w
    · rw [same, writes] at writes'
      obtain ⟨rfl, rfl⟩ : key' = key'' ∧ rest = rest' := by simpa using writes'
      by_contra lacking
      have missing := key?_of_lacking sound whole lacking
      rw [← file] at missing
      rw [missing] at found
      cases found
    · have quiet := others j same
      rw [writes'] at quiet
      exact quiet.elim

theorem Ordered.of_failure (h : x.Ordered) {i : Nat} {e : Error}
    (failure : x.phase i = .finished (.error e)) : ∃ text, e = .key text := by
  cases h with
  | settled agree =>
    have := agree i
    rw [failure] at this
    exact this
  | @writing w _ _ _ _ writes _ _ others =>
    have other : i ≠ w := by
      rintro rfl
      rw [failure] at writes
      cases writes
    have := others i other
    rw [failure] at this
    exact this

end Loads

/-- A load in this phase takes a step to that one, wherever it is and whatever others have done. -/
def Phase.StepsTo (before after : Phase) : Prop :=
  (∀ result, before ≠ .finished result) ∧ ∃ path source bits piece place,
    after = (step path (fun _ => SigningKey.generate source bits) piece place before).2

/-- A bound on the steps that are left, once the size of the key is known. -/
def Phase.stepsLeft : Phase → ℕ∞
  | .start => ⊤
  | .creating key => (key.der.size + 2 : Nat)
  | .writing _ rest => (rest.size + 1 : Nat)
  | .finished _ => (0 : Nat)

theorem Phase.StepsTo.stepsLeft_lt {before after : Phase} (h : before.StepsTo after) :
    after.stepsLeft < before.stepsLeft := by
  obtain ⟨unfinished, path, source, bits, piece, place, rfl⟩ := h
  cases before with
  | start =>
    cases place with
    | missing =>
      rw [step]
      cases SigningKey.generate source bits with
      | ok key => exact ENat.natCast_lt_top _
      | error e => exact ENat.natCast_lt_top 0
    | file bytes => exact ENat.natCast_lt_top 0
    | obstacle => exact ENat.natCast_lt_top 0
  | creating key =>
    have positive : ((0 : Nat) : ℕ∞) < (key.der.size + 2 : Nat) :=
      Nat.cast_lt.mpr (Nat.succ_pos _)
    cases place with
    | missing => exact Nat.cast_lt.mpr (Nat.lt_succ_self (key.der.size + 1))
    | file bytes => exact positive
    | obstacle => exact positive
  | writing key rest =>
    have positive : ((0 : Nat) : ℕ∞) < (rest.size + 1 : Nat) := Nat.cast_lt.mpr (Nat.succ_pos _)
    cases place with
    | missing => exact positive
    | file bytes =>
      rw [step]
      split
      · exact positive
      · refine Nat.cast_lt.mpr ?_
        rw [ByteArray.size_extract]
        omega
    | obstacle => exact positive
  | finished result => exact absurd rfl (unfinished result)

/-- No load goes on for ever. -/
theorem Phase.wellFounded_stepsTo : WellFounded fun after before : Phase => before.StepsTo after :=
  Subrelation.wf (fun h => h.stepsLeft_lt) (InvImage.wf stepsLeft wellFounded_lt)

namespace Loads

/-- However the steps of any number of loads are interleaved, a file is made at most once, what was
at the path before is not changed, and neither is the file once all of it has been written. All
loads that succeed have the key that the file holds, and all others fail with an error of keys. No
load goes on for ever. -/
theorem one_key :
    WellFounded (fun after before : Phase => before.StepsTo after) ∧
    ∀ (place : Place) (x : Loads), Later (start place) x →
      x.made ≤ 1 ∧
      (place ≠ .missing → x.place = place ∧ x.made = 0) ∧
      (∀ i key, x.phase i = .finished (.ok key) →
        SigningKey.ofDer key.der = .ok key ∧ x.Complete ∧
        ∀ y, Later x y → y.place = .file key.der ∧
          ∀ j key', y.phase j = .finished (.ok key') →
            key'.der = key.der ∧ key'.fingerprint = key.fingerprint) ∧
      (∀ i e, x.phase i = .finished (.error e) → ∃ text, e = .key text) ∧
      (x.Complete → ∀ y, Later x y → y.place = x.place) := by
  refine ⟨Phase.wellFounded_stepsTo, ?_⟩
  intro place x later
  have ordered := later.ordered (ordered_start place)
  refine ⟨ordered.made_le, ?_, ?_, ?_, ?_⟩
  · intro there
    obtain ⟨same, made, -⟩ := later.complete (ordered_start place) (complete_start there)
    exact ⟨same, made⟩
  · intro i key success
    obtain ⟨file, sound, complete⟩ := ordered.of_success success
    refine ⟨sound, complete, ?_⟩
    intro y later'
    obtain ⟨same, -, -⟩ := later'.complete ordered complete
    refine ⟨same.trans file, ?_⟩
    intro j key' success'
    obtain ⟨file', -, -⟩ := (later'.ordered ordered).of_success success'
    have der : key'.der = key.der :=
      Place.file.inj (file'.symm.trans (same.trans file))
    exact ⟨der, by rw [SigningKey.fingerprint, SigningKey.fingerprint, der]⟩
  · intro i e failure
    exact ordered.of_failure failure
  · intro complete y later'
    exact (later'.complete ordered complete).1

/-- Two loads find no file. Both make a key, one of them makes the file, and the other fails. -/
theorem exists_race (path : String) {key : SigningKey}
    (drawn : SigningKey.generate source bits = .ok key) :
    ∃ x, Later (start .missing) x ∧ x.phase 0 = .finished (.ok key) ∧
      x.phase 1 = .finished (.error (createFailure path)) := by
  let both := ((start .missing).next 0 path source bits 0).next 1 path source bits 0
  let begun := (both.next 0 path source bits 0).next 1 path source bits 0
  let written := begun.next 0 path source bits key.der.size
  have later : Later (start .missing) written :=
    .tail (.tail (.tail (.tail (.tail .refl (.step ..)) (.step ..)) (.step ..)) (.step ..))
      (.step ..)
  refine ⟨written.next 0 path source bits 0, later.tail (.step ..), ?_, ?_⟩
  · by_cases none : key.der = .empty
    · simp [written, begun, both, start, next, step, drawn, none]
    · simp [written, begun, both, start, next, step, drawn, none]
  · simp [written, begun, both, start, next, step, drawn]

end Loads

/-- A source that hits two primes of nine bits. -/
def dice : RandomSource where
  draw k n := ⟨(List.replicate n (UInt8.ofNat (4 + 12 * k))).toArray⟩

def smallKey : SigningKey :=
  let key : Rsa.PrivateKey := ⟨389 * 401, SigningKey.publicExponent, 99073, 389, 401⟩
  ⟨key, ⟨key.toPkcs8.toArray⟩⟩

theorem generate_smallKey : SigningKey.generate dice 18 = .ok smallKey := by
  have prime : Modular.isProbablePrime 389 = true :=
    Modular.isProbablePrime_of_small (by decide) (by decide) (by decide +kernel)
  have prime' : Modular.isProbablePrime 401 = true :=
    Modular.isProbablePrime_of_small (by decide) (by decide) (by decide +kernel)
  have low : RandomSource.number (dice.draw 0 2) % (1 <<< 7) = 4 := by decide
  have high : RandomSource.number (dice.draw 1 2) % (1 <<< 7) = 16 := by decide
  have first : SigningKey.randomPrime? dice 9 1000 0 = some (389, 1) :=
    SigningKey.randomPrime?_of_prime 999 low (by decide) (by decide) (by decide) prime
  have second : SigningKey.randomPrime? dice 9 1000 1 = some (401, 2) :=
    SigningKey.randomPrime?_of_prime 999 high (by decide) (by decide) (by decide) prime'
  have inverse : Modular.inverse? SigningKey.publicExponent ((389 - 1) * (401 - 1)) =
      some 99073 := by decide +kernel
  have fits : 389 ≠ 401 ∧ Rsa.PrivateKey.bits (389 * 401) = 18 :=
    ⟨by decide, by decide +kernel⟩
  have made : SigningKey.randomKey? dice 18 1000 0 = some smallKey.key :=
    SigningKey.randomKey?_of_primes 999 first second inverse fits
  have valid : smallKey.key.Valid := by decide
  rw [SigningKey.generate, if_neg (by decide), made]
  exact if_pos valid

/-- Of two calls that race for a missing file one makes the key and the other fails. -/
theorem first_load_wins :
    ∃ x, Loads.Later (.start .missing) x ∧
      x.phase 1 = .finished (.error (createFailure "ygg/key.pkcs8")) ∧
      x.place = .file smallKey.der ∧ x.made ≤ 1 := by
  obtain ⟨x, later, success, failure⟩ := Loads.exists_race "ygg/key.pkcs8" generate_smallKey
  obtain ⟨made, -, wins, -⟩ := Loads.one_key.2 .missing x later
  obtain ⟨-, -, stays⟩ := wins 0 smallKey success
  exact ⟨x, later, failure, (stays x .refl).1, made⟩

end PlayerRegistry.KeyFile
