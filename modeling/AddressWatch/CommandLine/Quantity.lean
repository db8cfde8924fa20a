import AddressWatch.CommandLine

/-!
Settings that are numbers of seconds: the words that hold them, and the numbers that are accepted.
-/

namespace AddressWatch.CommandLine

inductive Quantity where
  | interval
  | ttl
  | commandTimeout
deriving DecidableEq, Inhabited

namespace Quantity

def flag : Quantity → Flag
  | interval => .interval
  | ttl => .ttl
  | commandTimeout => .commandTimeout

/-- How many numbers the word has. -/
def size : Quantity → Nat
  | interval | commandTimeout => UInt64.size
  | ttl => UInt32.size

/-- The numbers that are accepted. -/
def Admits : Quantity → Nat → Prop
  | interval, number | commandTimeout, number => 1 ≤ number ∧ number ≤ UInt64.size - 1
  | ttl, number => 60 ≤ number ∧ number ≤ 86400

instance (quantity : Quantity) (number : Nat) : Decidable (quantity.Admits number) := by
  cases quantity <;> exact inferInstanceAs (Decidable (_ ∧ _))

/-- The flag with the word for a number. -/
def given (number : Nat) : Quantity → Given
  | interval => .interval (.ofNat number)
  | ttl => .ttl (.ofNat number)
  | commandTimeout => .commandTimeout (.ofNat number)

/-- The number in some settings. -/
def seconds (config : Config) : Quantity → Nat
  | interval => config.interval.toNat
  | ttl => config.ttl.toNat
  | commandTimeout => config.commandTimeout.toNat

/-- The settings with the word for another number. -/
def set (config : Config) (number : Nat) : Quantity → Config
  | interval => { config with interval := .ofNat number }
  | ttl => { config with ttl := .ofNat number }
  | commandTimeout => { config with commandTimeout := .ofNat number }

/-- The length of time that the settings allow for, if it is one that the agent waits. -/
def duration? (config : Config) : Quantity → Option Duration
  | interval => some config.pollInterval
  | ttl => none
  | commandTimeout => some config.commandLimit

/-- Why a number that the word can hold is not accepted. -/
def fault (number : Nat) : Quantity → Config.Fault
  | interval => .zeroInterval
  | ttl => .ttlOutOfRange (.ofNat number)
  | commandTimeout => .zeroCommandTimeout

end Quantity

end AddressWatch.CommandLine
