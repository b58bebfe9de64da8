import PlayerRegistry.Texture.Image

/-!
# Checked shapes

The size in the header of a file is checked before a pixel is decoded. The check doubles the height
in words of 32 bits. Where the double does not fit, which takes a height of 2³¹ at least, the task
that checks the image is ended. For every other size the check decides as the rules do over the
natural numbers, and reports the first rule that is broken.
-/

namespace PlayerRegistry.Texture

/-- The proportion of a kind. -/
def Kind.Proportioned : Kind → Nat → Nat → Prop
  | .skin, width, height => width = height ∨ width = 2 * height
  | .cape, width, height => width = 2 * height

instance (kind : Kind) (width height : Nat) : Decidable (kind.Proportioned width height) :=
  match kind with
  | .skin => inferInstanceAs (Decidable (_ ∨ _))
  | .cape => inferInstanceAs (Decidable (_ = _))

/-- The shapes that pictures of a kind may have. -/
structure Kind.Shaped (kind : Kind) (limit width height : Nat) : Prop where
  pos : 0 < width
  multiple : 64 ∣ width
  small : width ≤ limit
  proportioned : kind.Proportioned width height

/-- The height has to be doubled, and its double does not fit into 32 bits. -/
structure Kind.Overflows (kind : Kind) (width height : UInt32) : Prop where
  tall : 2147483648 ≤ height.toNat
  doubled : kind = .skin → width ≠ height

/-- The first rule that a shape breaks. The rules are looked at in the order proportion, multiple
of 64, greatest width. -/
inductive FirstFault (proportioned : Prop) (limit : UInt32) (width : Nat) : Fault → Prop where
  | proportion (wrong : ¬proportioned) : FirstFault proportioned limit width .proportion
  | notMultiple (right : proportioned) (wrong : ¬(0 < width ∧ 64 ∣ width)) :
    FirstFault proportioned limit width .notMultiple
  | tooWide (right : proportioned) (multiple : 0 < width ∧ 64 ∣ width)
    (wide : limit.toNat < width) : FirstFault proportioned limit width (.tooWide limit)

variable {kind : Kind} {limit width height : UInt32}

theorem isDouble_of_tall (tall : 2147483648 ≤ height.toNat) :
    isDouble width height = .error .overflow := by
  have large : UInt32.size ≤ 2 * height.toNat := by
    simp only [UInt32.size]
    omega
  rw [isDouble, if_pos large]

theorem isDouble_of_not_tall (short : ¬2147483648 ≤ height.toNat) :
    isDouble width height = .ok (decide (width.toNat = 2 * height.toNat)) := by
  have small : 2 * height.toNat < UInt32.size := by
    simp only [UInt32.size]
    omega
  have double : (2 * height).toNat = 2 * height.toNat :=
    (UInt32.toNat_mul 2 height).trans (Nat.mod_eq_of_lt small)
  rw [isDouble, if_neg (Nat.not_le.mpr small), ← double]
  simp only [UInt32.toNat_inj]
  rfl

theorem hasProportion_of_overflows (h : kind.Overflows width height) :
    hasProportion kind width height = .error .overflow := by
  cases kind with
  | skin => rw [hasProportion, if_neg (h.doubled rfl), isDouble_of_tall h.tall]
  | cape => rw [hasProportion, isDouble_of_tall h.tall]

theorem hasProportion_of_not_overflows (h : ¬kind.Overflows width height) :
    hasProportion kind width height =
      .ok (decide (kind.Proportioned width.toNat height.toNat)) := by
  cases kind with
  | skin =>
    by_cases same : width = height
    · have right : Kind.Proportioned .skin width.toNat height.toNat := .inl (by rw [same])
      rw [hasProportion, if_pos same, decide_eq_true right]
    · have distinct : width.toNat ≠ height.toNat := fun equal => same (UInt32.toNat_inj.mp equal)
      rw [hasProportion, if_neg same, isDouble_of_not_tall fun tall => h ⟨tall, fun _ => same⟩]
      simp only [Kind.Proportioned, distinct, false_or]
  | cape =>
    rw [hasProportion, isDouble_of_not_tall fun tall => h ⟨tall, nofun⟩]
    rfl

/-- What overflows has no right proportion: its width would not fit into 32 bits. -/
theorem Kind.Overflows.not_proportioned (h : kind.Overflows width height) :
    ¬kind.Proportioned width.toNat height.toNat := by
  have tall := h.tall
  have small := width.toNat_lt_size
  simp only [UInt32.size] at small
  cases kind with
  | skin =>
    rintro (same | twice)
    · exact h.doubled rfl (UInt32.toNat_inj.mp same)
    · omega
  | cape =>
    intro twice
    have : width.toNat = 2 * height.toNat := twice
    omega

theorem not_multiple_iff :
    (width = 0 ∨ width % 64 ≠ 0) ↔ ¬(0 < width.toNat ∧ 64 ∣ width.toNat) := by
  have remainder : (width % 64).toNat = width.toNat % 64 := UInt32.toNat_mod width 64
  rw [ne_eq, ← UInt32.toNat_inj, ← UInt32.toNat_inj, remainder, Nat.dvd_iff_mod_eq_zero]
  change width.toNat = 0 ∨ ¬width.toNat % 64 = 0 ↔ _
  omega

theorem checkShape_of_overflows (h : kind.Overflows width height) :
    checkShape kind limit width height = .error .overflow := by
  rw [checkShape, hasProportion_of_overflows h]
  rfl

theorem checkShape_of_not_overflows (h : ¬kind.Overflows width height) :
    checkShape kind limit width height =
      if kind.Proportioned width.toNat height.toNat then
        if 0 < width.toNat ∧ 64 ∣ width.toNat then
          if limit.toNat < width.toNat then .error (.tooWide limit) else .ok ()
        else .error .notMultiple
      else .error .proportion := by
  rw [checkShape, hasProportion_of_not_overflows h]
  simp only [not_multiple_iff, UInt32.lt_iff_toNat_lt]
  by_cases right : kind.Proportioned width.toNat height.toNat
  · rw [decide_eq_true right, if_pos right]
    by_cases multiple : 0 < width.toNat ∧ 64 ∣ width.toNat
    · rw [if_neg (not_not_intro multiple), if_pos multiple]
      rfl
    · rw [if_pos multiple, if_neg multiple]
      rfl
  · rw [decide_eq_false right, if_neg right]
    rfl

theorem checkShape_eq_ok_iff (h : ¬kind.Overflows width height) :
    checkShape kind limit width height = .ok () ↔
      kind.Shaped limit.toNat width.toNat height.toNat := by
  rw [checkShape_of_not_overflows h]
  constructor
  · intro passed
    by_cases right : kind.Proportioned width.toNat height.toNat
    · by_cases multiple : 0 < width.toNat ∧ 64 ∣ width.toNat
      · by_cases wide : limit.toNat < width.toNat
        · simp [right, multiple, wide] at passed
        · exact ⟨multiple.1, multiple.2, Nat.not_lt.mp wide, right⟩
      · simp [right, multiple] at passed
    · simp [right] at passed
  · intro shaped
    rw [if_pos shaped.proportioned, if_pos ⟨shaped.pos, shaped.multiple⟩,
      if_neg (Nat.not_lt.mpr shaped.small)]

theorem checkShape_eq_error_iff (h : ¬kind.Overflows width height) {f : Fault} :
    checkShape kind limit width height = .error f ↔
      FirstFault (kind.Proportioned width.toNat height.toNat) limit width.toNat f := by
  rw [checkShape_of_not_overflows h]
  constructor
  · intro found
    by_cases right : kind.Proportioned width.toNat height.toNat
    · by_cases multiple : 0 < width.toNat ∧ 64 ∣ width.toNat
      · by_cases wide : limit.toNat < width.toNat
        · obtain rfl : Fault.tooWide limit = f := by simpa [right, multiple, wide] using found
          exact .tooWide right multiple wide
        · simp [right, multiple, wide] at found
      · obtain rfl : Fault.notMultiple = f := by simpa [right, multiple] using found
        exact .notMultiple right multiple
    · obtain rfl : Fault.proportion = f := by simpa [right] using found
      exact .proportion right
  · rintro (⟨wrong⟩ | ⟨right, wrong⟩ | ⟨right, multiple, wide⟩)
    · rw [if_neg wrong]
    · rw [if_pos right, if_neg wrong]
    · rw [if_pos right, if_pos multiple, if_pos wide]

/-- The check of a shape, for every size that a header can carry. Unless the height is doubled
beyond 32 bits, exactly the shapes are accepted that the rules over the natural numbers allow, and
the fault reported is the first one that these find. Where it is, the proportion is wrong, but
nothing is reported: the task is ended by the overflow, which is no fault of the picture to those
who sent it. -/
theorem shape_checked_up_to_overflow (kind : Kind) (limit width height : UInt32) :
    (¬kind.Overflows width height →
      (checkShape kind limit width height = .ok () ↔
        kind.Shaped limit.toNat width.toNat height.toNat) ∧
      ∀ f, checkShape kind limit width height = .error f ↔
        FirstFault (kind.Proportioned width.toNat height.toNat) limit width.toNat f) ∧
    (kind.Overflows width height →
      ¬kind.Proportioned width.toNat height.toNat ∧
      checkShape kind limit width height = .error .overflow ∧
      ∀ field reason, Fault.overflow.error kind ≠ .validation field reason) := by
  constructor
  · intro fits
    exact ⟨checkShape_eq_ok_iff fits, fun f => checkShape_eq_error_iff fits⟩
  · intro overflows
    exact ⟨overflows.not_proportioned, checkShape_of_overflows overflows, nofun⟩

/-- The widest skin of all, and a square one that is taller still. -/
theorem widest_skin_is_accepted :
    ¬Kind.Overflows .skin 4294967232 2147483616 ∧
    checkShape .skin 4294967295 4294967232 2147483616 = .ok () ∧
    ¬Kind.Overflows .skin 4294967232 4294967232 ∧
    checkShape .skin 4294967295 4294967232 4294967232 = .ok () := by
  have low : ¬Kind.Overflows .skin 4294967232 2147483616 := fun h => absurd h.tall (by decide)
  have square : ¬Kind.Overflows .skin 4294967232 4294967232 := fun h => h.doubled rfl rfl
  exact ⟨low, ((shape_checked_up_to_overflow .skin 4294967295 4294967232 2147483616).1
      low).1.mpr ⟨by decide, by decide, by decide, .inr (by decide)⟩,
    square, ((shape_checked_up_to_overflow .skin 4294967295 4294967232 4294967232).1
      square).1.mpr ⟨by decide, by decide, by decide, .inl rfl⟩⟩

/-- The check of a skin of 64 by 2³¹ + 32 pixels and that of a cape of 100 by 2³¹ + 50 pixels are
ended, though neither has the proportion of its kind, which is the first fault of both. -/
theorem tall_pictures_end_the_check :
    (checkShape .skin 128 64 2147483680 = .error .overflow ∧
      FirstFault (Kind.Proportioned .skin 64 2147483680) 128 64 .proportion) ∧
    (checkShape .cape 128 100 2147483698 = .error .overflow ∧
      FirstFault (Kind.Proportioned .cape 100 2147483698) 128 100 .proportion) := by
  have skin : Kind.Overflows .skin 64 2147483680 := ⟨by decide, fun _ => by decide⟩
  have cape : Kind.Overflows .cape 100 2147483698 := ⟨by decide, nofun⟩
  exact ⟨⟨checkShape_of_overflows skin, .proportion skin.not_proportioned⟩,
    checkShape_of_overflows cape, .proportion cape.not_proportioned⟩

end PlayerRegistry.Texture
