/-! # Log records

What the program tells about its work besides its answers. A record has a level, the part of the program that it
comes from, and a message. A computation that logs is a value together with its records in order.
-/

set_option autoImplicit false

namespace SpellLint.Log

/-! ## Records -/

/-- How important a record is. -/
inductive Level where
  | debug
  | info
  | warning
  | error
  deriving DecidableEq, Repr

namespace Level

/-- The number by which levels are compared. -/
def number : Level → Nat
  | debug => 10
  | info => 20
  | warning => 30
  | error => 40

/-- The word for a level. -/
def label : Level → String
  | debug => "DEBUG"
  | info => "INFO"
  | warning => "WARNING"
  | error => "ERROR"

end Level

/-- A log record. -/
structure Record where
  level : Level
  logger : String
  message : String
  deriving DecidableEq, Repr

/-- The line of a record. -/
def Record.line (r : Record) : String := s!"{r.level.label} {r.logger}: {r.message}"

/-- The records that a threshold lets through. -/
def passing (threshold : Nat) (records : List Record) : List Record :=
  records.filter (threshold ≤ ·.level.number)

end SpellLint.Log

namespace SpellLint

/-! ## Computations that log -/

/-- A value and the records of its computation, in order. -/
structure Logged (α : Type) where
  value : α
  records : List Log.Record

namespace Logged

variable {α : Type}

instance : Monad Logged where
  pure a := ⟨a, []⟩
  bind x f := let y := f x.value; ⟨y.value, x.records ++ y.records⟩

@[simp] theorem value_pure (a : α) : (pure a : Logged α).value = a := rfl

@[simp] theorem value_bind {β : Type} (x : Logged α) (f : α → Logged β) : (x >>= f).value = (f x.value).value := rfl

/-- Logs one record. -/
def tell (level : Log.Level) (logger message : String) : Logged Unit := ⟨(), [⟨level, logger, message⟩]⟩

end Logged

end SpellLint
