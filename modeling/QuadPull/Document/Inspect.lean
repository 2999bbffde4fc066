import QuadPull.Document.Basic
import QuadPull.Number.Shortest
import QuadPull.Text.Quoted

namespace QuadPull.Document

mutual

def inspect : Document → String
  | .null => "None"
  | .bool b => if b then "True" else "False"
  | .int n => toString n
  | .double d => d.toText
  | .text s => Text.quoted s
  | .list items => "[" ++ ", ".intercalate (inspectAll items) ++ "]"
  | .object fields => "\x7b" ++ ", ".intercalate (inspectFields fields) ++ "\x7d"

def inspectAll : List Document → List String
  | [] => []
  | d :: rest => d.inspect :: inspectAll rest

def inspectFields : List (String × Document) → List String
  | [] => []
  | (key, d) :: rest => (Text.quoted key ++ ": " ++ d.inspect) :: inspectFields rest

end

def display : Document → String
  | .text s => s
  | d => d.inspect

end QuadPull.Document
