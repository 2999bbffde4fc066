import QuadPull.Endpoint.Label
import QuadPull.Term.Written
/-!
What can go wrong, by cause, and the wording of each cause.
-/

namespace QuadPull

/-- Why a pull expression is refused (`PullExprError`); each cause shows the item at fault. -/
inductive ExpressionFault where
  | notItems (shown : String)
  | unknownMark (shown : String)
  | notPair (shown : String)
  | predicate (shown : String)
  | unsupported (shown : String)
  deriving DecidableEq, Repr

def ExpressionFault.message : ExpressionFault → String
  | .notItems shown => "Pull expression must be a list, got " ++ shown
  | .unknownMark shown => "Unknown specifier " ++ shown
  | .notPair shown => "Specifier must be (predicate, value), got " ++ shown
  | .predicate shown => "Predicate must be a NamedNode in " ++ shown
  | .unsupported shown => "Unsupported specifier " ++ shown

inductive SettingFault where
  | fewLookups
  | urlScheme (shown : String)
  | timeout
  deriving DecidableEq, Repr

def SettingFault.message : SettingFault → String
  | .fewLookups => "max_concurrent_lookups must be at least 1"
  | .urlScheme shown => "url must be http(s), got " ++ shown
  | .timeout => "timeout_seconds must be positive"

inductive SettingsFault where
  | urlRequired
  | variableUnset (name : String)
  | notInteger (key shown : String)
  | notNumber (key shown : String)
  | outOfRange (faults : List SettingFault)
  deriving DecidableEq, Repr

def SettingsFault.message : SettingsFault → String
  | .urlRequired => "url is required"
  | .variableUnset name => name ++ " is not set"
  | .notInteger key shown => key ++ " must be int, got " ++ shown
  | .notNumber key shown => key ++ " must be float, got " ++ shown
  | .outOfRange faults => "; ".intercalate (faults.map SettingFault.message)

inductive ResultsFault where
  | bindingKind (shown : String)
  | shape (url : String)
  deriving DecidableEq, Repr

def ResultsFault.message : ResultsFault → String
  | .bindingKind shown => "Unsupported binding type " ++ shown
  | .shape url => "Malformed results from " ++ url

inductive Error where
  | numberTooLong
  | badValue
  | wrongKind
  | notOffered
  | missing
  | overflow
  | outOfReach
  | incomparable
  | storedVariable (name : String)
  | unstorable (term : Term)
  | expression (fault : ExpressionFault)
  | settings (fault : SettingsFault)
  | lookupOffline (subject : Term)
  | quadsOffline
  | invalidAddress
  | hostName (fault : LabelFault)
  | unencodable
  | transport (cause : String)
  | status (code : Int)
  | undecodable
  | notJson
  | tooDeep
  /-- A lookup that was given up because of another (`_cancel_all`). -/
  | withdrawn
  | results (fault : ResultsFault)
  deriving DecidableEq, Inhabited, Repr

def Error.message : Error → String
  | .numberTooLong => "integer with more than 4300 digits"
  | .badValue => "bad value"
  | .wrongKind => "value of the wrong kind"
  | .notOffered => "operation not offered"
  | .missing => "no such entry"
  | .overflow => "number too large"
  | .outOfReach => "number out of reach"
  | .incomparable => "values without an order"
  | .storedVariable name => "Cannot store quad with variable ?" ++ name
  | .unstorable term => "Cannot store " ++ term.kindName ++ " term " ++ term.inspect
  | .expression fault => fault.message
  | .settings fault => fault.message
  | .lookupOffline subject => "lookup failed for " ++ subject.display
  | .quadsOffline => "quads failed"
  | .invalidAddress => "bad address"
  | .hostName _ => "bad host name"
  | .unencodable => "text beyond ASCII"
  | .transport cause => cause
  | .status code => "status " ++ toString code
  | .undecodable => "bytes that are no text"
  | .notJson => "answer is not JSON"
  | .tooDeep => "too many levels"
  | .withdrawn => "lookup given up"
  | .results fault => fault.message

end QuadPull
