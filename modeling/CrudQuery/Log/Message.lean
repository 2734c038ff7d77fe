import CrudQuery.Document

/-! # Log messages

What a part of the library has to say, with its severity and the name of the part, before a logger
decides whether and where it is shown.
-/

namespace CrudQuery.Log

/-- How much a message matters. -/
inductive Severity where
  | debug
  | info
  | warning
  | error
  deriving Repr, DecidableEq

/-- A message with the part that it comes from and data to go with it. -/
structure Message where
  severity : Severity
  text : String
  context? : Option String
  data? : Option (List (String × Document))

namespace Severity

/-- The level of a severity on the scale that thresholds are chosen from. -/
def level : Severity → Float
  | debug => 10
  | info => 20
  | warning => 30
  | error => 40

/-- The word for a severity. -/
def label : Severity → String
  | debug => "DEBUG"
  | info => "INFO"
  | warning => "WARN"
  | error => "ERROR"

end Severity

/-- The threshold below which nothing lies. -/
def all : Float := 0

/-- The threshold that nothing passes. -/
def off : Float := 50

/-- The named points of the scale, in ascending order. -/
def scale : List (String × Float) :=
  [("ALL", all)] ++
    [Severity.debug, .info, .warning, .error].map (fun s => (s.label, s.level)) ++ [("OFF", off)]

/-- Whether a level passes a threshold: it is not below, and the threshold is not the one that
nothing passes. -/
def passes (threshold level : Float) : Bool :=
  !Number.same threshold off && Number.le threshold level

end CrudQuery.Log
