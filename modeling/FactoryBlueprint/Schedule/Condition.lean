import FactoryBlueprint.Connections.Record
import FactoryBlueprint.Signal

/-! # Conditions

A condition compares a signal with a constant or with another signal. Comparators are written as one
character; ASCII spellings are read too.
-/

namespace FactoryBlueprint

inductive Comparator where
  | greater
  | less
  | equal
  | greaterOrEqual
  | lessOrEqual
  | notEqual
  deriving DecidableEq

namespace Comparator

def symbol : Comparator → String
  | .greater => ">"
  | .less => "<"
  | .equal => "="
  | .greaterOrEqual => "≥"
  | .lessOrEqual => "≤"
  | .notEqual => "≠"

/-- Every spelling that is read. -/
def spellings : List (String × Comparator) :=
  [(">", .greater), ("<", .less), ("=", .equal), ("==", .equal), ("≥", .greaterOrEqual),
    (">=", .greaterOrEqual), ("≤", .lessOrEqual), ("<=", .lessOrEqual), ("≠", .notEqual),
    ("!=", .notEqual)]

/-- A text that spells no comparator. -/
structure Unknown where
  text : String

def Unknown.message (unknown : Unknown) : String := s!"unknown comparator '{unknown.text}'"

def ofText (text : String) : Except Unknown Comparator :=
  match spellings.lookup text with
  | some comparator => .ok comparator
  | none => .error ⟨text⟩

def read : Reader Comparator := fun document => do
  match ofText (← Reader.text document) with
  | .ok comparator => pure comparator
  | .error unknown => .error (.broken unknown.message)

def write (comparator : Comparator) : Document := .text comparator.symbol

end Comparator

structure Condition where
  firstSignal : Option Signal
  comparator : Option Comparator
  constant : Option Int
  secondSignal : Option Signal
  deriving DecidableEq

namespace Condition

/-- The condition that compares a signal with a constant. -/
def ofConstant (signal : Signal) (comparator : Comparator) (constant : Int) : Condition :=
  ⟨some signal, some comparator, some constant, none⟩

/-- The signals that the condition names. -/
def signals (condition : Condition) : List Signal :=
  condition.firstSignal.toList ++ condition.secondSignal.toList

def read : Reader Condition :=
  Reader.record "Condition" ["first_signal", "comparator", "constant", "second_signal"]
    fun entries =>
      Condition.mk <$> entries.optional "first_signal" Signal.read <*>
        entries.optional "comparator" Comparator.read <*>
        entries.optional "constant" Reader.int32 <*>
        entries.optional "second_signal" Signal.read

def write (condition : Condition) : Document :=
  .ofFields (Document.optionalField "first_signal" Signal.write condition.firstSignal ++
    Document.optionalField "comparator" Comparator.write condition.comparator ++
    Document.optionalField "constant" Document.integer condition.constant ++
    Document.optionalField "second_signal" Signal.write condition.secondSignal)

end Condition
end FactoryBlueprint
