import Tapeline.Binary64.Shortest
import Tapeline.Json.Basic
import Tapeline.Text.Quoted

/-!
# Values shown in messages

In a message a value is shown as in a program text: texts are quoted, truth values and the missing
value have capital letters, lists stand in brackets and objects in braces.  A text on its own is
shown as it is.
-/

namespace Tapeline

namespace Json

/-- The word for a truth value in a message. -/
def truthWord (b : Bool) : Text :=
  (if b then "True" else "False").toList

/-- The word for a missing value in a message. -/
def missingWord : Text := "None".toList

mutual

/-- A value within a message. -/
def shown : Json → Text
  | null => missingWord
  | boolean b => truthWord b
  | integer n => Text.ofInt n
  | number x => x.text
  | text t => t.quoted
  | list [] => ['[', ']']
  | list (item :: items) => ['['] ++ shown item ++ shownItems items ++ [']']
  | object [] => ['\x7b', '\x7d']
  | object ((name, value) :: members) =>
    ['\x7b'] ++ Text.quoted name ++ [':', ' '] ++ shown value ++ shownMembers members ++ ['\x7d']

/-- Further items of a list. -/
def shownItems : List Json → Text
  | [] => []
  | item :: items => [',', ' '] ++ shown item ++ shownItems items

/-- Further members of an object. -/
def shownMembers : List (Text × Json) → Text
  | [] => []
  | (name, value) :: members =>
    [',', ' '] ++ Text.quoted name ++ [':', ' '] ++ shown value ++ shownMembers members

end

/-- A value as a message of its own: a text as it is, anything else as within a message. -/
def plain : Json → Text
  | text t => t
  | value => shown value

/-- The name of the type of a value in a message. -/
def typeName : Json → Text
  | null => "NoneType".toList
  | boolean _ => "bool".toList
  | integer _ => "int".toList
  | number _ => "float".toList
  | text _ => "str".toList
  | list _ => "list".toList
  | object _ => "dict".toList

end Json

end Tapeline
