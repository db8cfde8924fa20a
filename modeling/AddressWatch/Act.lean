import AddressWatch.Log

/-!
Acts on the outside world: what is logged when one starts, how long it takes, what is logged when it
ends, and what it returns.
-/

namespace AddressWatch

/-- An act with its result; its length is in milliseconds. -/
structure Act (α : Type) where
  atStart : List Log.Entry
  elapsed : Nat
  atEnd : List Log.Entry
  result : α

namespace Act

variable {α β : Type}

/-- An act that takes no time and logs nothing. -/
def done (result : α) : Act α := ⟨[], 0, [], result⟩

def map (change : α → β) (act : Act α) : Act β := { act with result := change act.result }

/-- The act with log records in front of its own. -/
def after (entries : List Log.Entry) (act : Act α) : Act α :=
  { act with atStart := entries ++ act.atStart }

def log (act : Act α) : List Log.Entry := act.atStart ++ act.atEnd

@[simp]
theorem result_done (result : α) : (done result).result = result := rfl

@[simp]
theorem result_map (change : α → β) (act : Act α) : (act.map change).result = change act.result :=
  rfl

@[simp]
theorem result_after (entries : List Log.Entry) (act : Act α) :
    (act.after entries).result = act.result := rfl

end Act

end AddressWatch
