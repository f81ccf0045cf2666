namespace BenchScope

/-! A computation on a state that may fail. What it has changed before it fails stays changed, as a
command that has been sent stays sent. -/

abbrev Action (ε : Type) (state : Type) (β : Type) := ExceptT ε (StateM state) β

namespace Action

variable {ε state β γ : Type}

def of (run : state → Except ε β × state) : Action ε state β := run

def apply (action : Action ε state β) (start : state) : Except ε β × state := action start

@[simp] theorem apply_of (run : state → Except ε β × state) (start : state) :
    (of run).apply start = run start := rfl

@[simp] theorem apply_pure (value : β) (start : state) :
    (pure value : Action ε state β).apply start = (.ok value, start) := rfl

@[simp] theorem apply_throw (error : ε) (start : state) :
    (throw error : Action ε state β).apply start = (.error error, start) := rfl

@[simp] theorem apply_get (start : state) :
    (get : Action ε state state).apply start = (.ok start, start) := rfl

@[simp] theorem apply_set (start after : state) :
    (set after : Action ε state PUnit).apply start = (.ok (), after) := rfl

@[simp] theorem apply_modify (change : state → state) (start : state) :
    (modify change : Action ε state Unit).apply start = (.ok (), change start) := rfl

theorem apply_bind (action : Action ε state β) (next : β → Action ε state γ) (start : state) :
    (action >>= next).apply start =
      match action.apply start with
      | (.ok value, after) => (next value).apply after
      | (.error error, after) => (.error error, after) := by
  rcases result : action start with ⟨_ | _, after⟩ <;>
    simp [apply, bind, ExceptT.bind, ExceptT.mk, StateT.bind, ExceptT.bindCont, result]
  rfl

end Action

end BenchScope
