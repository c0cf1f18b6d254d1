import Isekai.FalconTypes

/-! The bitmaps of the sliding windows: a bit for each packet of a window, read and written by
an index that a `CHECK` keeps within the window, and shifted when the window moves on. -/

namespace Isekai

/-- `FalconBitmap`: no bit is set outside its size. -/
structure FalconBitmap where
  size : Nat
  bits : Nat → Bool
  bounded : ∀ index, size ≤ index → bits index = false

namespace FalconBitmap

/-- A bitmap of zeros. -/
def empty (size : Nat) : FalconBitmap := ⟨size, fun _ => false, fun _ _ => rfl⟩

/-- `Get`. -/
def get (bitmap : FalconBitmap) (index : Nat) : Except Abort Bool :=
  if index < bitmap.size then .ok (bitmap.bits index) else .error .bitmapIndex

/-- `Set`. -/
def set (bitmap : FalconBitmap) (index : Nat) (value : Bool) : Except Abort FalconBitmap :=
  if within : index < bitmap.size then
    .ok {
      size := bitmap.size
      bits := fun other => if other = index then value else bitmap.bits other
      bounded := by
        intro other outside
        rw [if_neg (by omega)]
        exact bitmap.bounded other outside }
  else .error .bitmapIndex

/-- `RightShift`: bit `amount` becomes the first. -/
def rightShift (bitmap : FalconBitmap) (amount : Nat) : FalconBitmap where
  size := bitmap.size
  bits index := bitmap.bits (index + amount)
  bounded := fun index outside => bitmap.bounded (index + amount) (by omega)

/-- `Empty`. -/
def isEmpty (bitmap : FalconBitmap) : Bool :=
  (List.range bitmap.size).all fun index => !bitmap.bits index

@[simp] theorem bits_empty (size index : Nat) : (empty size).bits index = false := rfl

@[simp] theorem size_empty (size : Nat) : (empty size).size = size := rfl

@[simp] theorem size_right_shift (bitmap : FalconBitmap) (amount : Nat) :
    (bitmap.rightShift amount).size = bitmap.size := rfl

@[simp] theorem bits_right_shift (bitmap : FalconBitmap) (amount index : Nat) :
    (bitmap.rightShift amount).bits index = bitmap.bits (index + amount) := rfl

theorem get_eq_ok {bitmap : FalconBitmap} {index : Nat} {value : Bool} :
    bitmap.get index = .ok value ↔ index < bitmap.size ∧ bitmap.bits index = value := by
  unfold get
  by_cases within : index < bitmap.size <;> simp [within]

/-- A bit that was written reads back, and the others stay. -/
theorem set_eq_ok {bitmap next : FalconBitmap} {index : Nat} {value : Bool}
    (written : bitmap.set index value = .ok next) :
    index < bitmap.size ∧ next.size = bitmap.size ∧
      ∀ other, next.bits other = if other = index then value else bitmap.bits other := by
  unfold set at written
  by_cases within : index < bitmap.size
  · rw [dif_pos within] at written
    cases written
    exact ⟨within, rfl, fun _ => rfl⟩
  · rw [dif_neg within] at written
    cases written

end FalconBitmap
end Isekai
