/-!
# Repeated text
-/

namespace JvmTypes.Text

def repeated (text : String) : Nat → String
  | 0 => ""
  | count + 1 => text ++ repeated text count

@[simp] theorem repeated_zero (text : String) : repeated text 0 = "" := rfl

theorem repeated_succ (text : String) (count : Nat) :
    repeated text (count + 1) = text ++ repeated text count := rfl

theorem toList_repeated (text : String) (count : Nat) :
    (repeated text count).toList = (List.replicate count text.toList).flatten := by
  induction count with
  | zero => rfl
  | succ count ih =>
      rw [repeated_succ, String.toList_append, ih, List.replicate_succ, List.flatten_cons]

theorem repeated_succ_append (text : String) (count : Nat) :
    repeated text (count + 1) = repeated text count ++ text := by
  induction count with
  | zero => simp [repeated]
  | succ count ih => rw [repeated_succ, ih, ← String.append_assoc, ← repeated_succ, ih]

end JvmTypes.Text
