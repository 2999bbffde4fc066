import QuadPull.Value.Reading
/-!
Where settings come from (`from_dict`, `from_env`): records of values, and environments of texts under a
common stem.
-/

namespace QuadPull.Settings

def variableStem : String := "STARPULL_"

def valueOr (fields : List (String × Value)) (key : String) (default : Value) : Value :=
  (fields.lookup key).getD default

/-- What reading a value gives (`_convert`); a value that cannot be read is refused under its key. One
that is read but is out of range stays an overflow. -/
def readAs {α : Type} (read : Value → Except Error α) (fault : String → String → SettingsFault)
    (key : String) (v : Value) : Except Error α :=
  match read v with
  | .error .badValue | .error .wrongKind => do
    let shown ← v.inspect
    throw (.settings (fault key shown))
  | outcome => outcome

def onWords : List String := ["1", "true", "yes", "on"]

/-- Whether an environment variable switches a setting on (`_env_bool`); case and blanks around it do not
count. Bytes are no word. -/
def switchedOn : Value → Except Error Value
  | .text s => .ok (.bool (onWords.contains (String.ofList
      ((Text.trimBy Text.isBlank s.toList).map Number.lowerAscii))))
  | .bytes _ => .ok (.bool false)
  | _ => .error .notOffered

def ensure (faults : Except Error (List SettingFault)) : Except Error Unit := do
  match ← faults with
  | [] => return ()
  | faults => throw (.settings (.outOfRange faults))

def onlyFields (known : List String) (fields : List (String × Value)) : Except Error Unit :=
  if fields.all fun f => known.contains f.1 then .ok () else .error .wrongKind

end QuadPull.Settings
