/-!
# Names bound to values
-/

namespace JvmTypes

/-- Values under names. A name that is bound again stands for its newest value. -/
structure Bindings (α : Type) where
  entries : List (String × α)

namespace Bindings

variable {α : Type}

def empty : Bindings α := ⟨[]⟩

def get? (b : Bindings α) (name : String) : Option α :=
  b.entries.lookup name

def bind (b : Bindings α) (name : String) (value : α) : Bindings α :=
  ⟨(name, value) :: b.entries⟩

@[simp] theorem get?_empty (name : String) : (empty : Bindings α).get? name = none := rfl

@[simp] theorem get?_bind_self (b : Bindings α) (name : String) (value : α) :
    (b.bind name value).get? name = some value := by
  simp [get?, bind]

theorem get?_bind_of_ne (b : Bindings α) {name other : String} (value : α) (h : other ≠ name) :
    (b.bind name value).get? other = b.get? other := by
  simp [get?, bind, List.lookup_cons, beq_false_of_ne h]

end Bindings

end JvmTypes
