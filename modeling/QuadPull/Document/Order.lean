import QuadPull.Document.Basic
import QuadPull.Error
import QuadPull.Text.Half
/-!
The order of documents: null, booleans, texts, and then lists and objects by what is in them. Texts are
in the order of the numbers of their characters. Numbers have no place in the order.
-/

namespace QuadPull.Document

def key (s : String) : List Nat := Text.numbers s.toList

mutual

/-- The place of a document: texts of which the first that differ decide. -/
def place : Document → Except Error (List (List Nat))
  | .null => .ok [key "0"]
  | .bool b => .ok [key "1", key (if b then "true" else "false")]
  | .int _ | .double _ => .error .wrongKind
  | .text s => .ok [key "2", key s]
  | .list items => do
    let inner ← placeAll items
    return key "3" :: inner ++ [key "4"]
  | .object fields => do
    let inner ← placeFields fields
    return key "3" :: inner ++ [key "4"]

def placeAll : List Document → Except Error (List (List Nat))
  | [] => .ok []
  | d :: rest => do
    let first ← d.place
    let others ← placeAll rest
    return first ++ others

def placeFields : List (String × Document) → Except Error (List (List Nat))
  | [] => .ok []
  | (name, d) :: rest => do
    let first ← d.place
    let others ← placeFields rest
    return key "2" :: key name :: first ++ others

end

def keyBefore : List Nat → List Nat → Bool
  | [], _ => true
  | _ :: _, [] => false
  | m :: ms, n :: ns => if m = n then keyBefore ms ns else m < n

def placeBefore : List (List Nat) → List (List Nat) → Bool
  | [], _ => true
  | _ :: _, [] => false
  | k :: ks, l :: ls => if k = l then placeBefore ks ls else keyBefore k l

def sorted (items : List Document) : Except Error (List Document) := do
  let places ← items.mapM place
  let ordered := (places.zip items).mergeSort fun a b => placeBefore a.1 b.1
  return ordered.map (·.2)

def sortedFields (fields : List (String × Document)) : List (String × Document) :=
  fields.mergeSort fun a b => keyBefore (key a.1) (key b.1)

end QuadPull.Document
