set_option autoImplicit false

namespace TokenFaucet

/-- How much a note matters. -/
inductive Event.Level where
  | error
  | warn
  | info
deriving DecidableEq, Repr

structure Event where
  level : Event.Level
  message : String
  error : Option String
deriving DecidableEq, Repr

namespace Event

def Level.name : Level → String
  | error => "ERROR"
  | warn => "WARN"
  | info => "INFO"

/-- The place of a level among the degrees of detail of a log, where 0 is no log at all. -/
def Level.detail : Level → Nat
  | error => 1
  | warn => 2
  | info => 3

def info (message : String) : Event := ⟨.info, message, none⟩

def warn (message : String) (error : Option String) : Event := ⟨.warn, message, error⟩

def failure (message error : String) : Event := ⟨.error, message, some error⟩

/-- The name under which a log knows the notes of this process. -/
def source : String := "faucet_server"

end Event

end TokenFaucet
