import QuadPull.Value.Basic

namespace QuadPull.Document

mutual

def toValue : Document → Value
  | .null => .absent
  | .bool b => .bool b
  | .int n => .int n
  | .double d => .double d
  | .text s => .text s
  | .list items => .list (toValues items)
  | .object fields => .record (toFields fields)

def toValues : List Document → List Value
  | [] => []
  | d :: rest => d.toValue :: toValues rest

def toFields : List (String × Document) → List (Value × Value)
  | [] => []
  | (key, d) :: rest => (.text key, d.toValue) :: toFields rest

end

end QuadPull.Document
