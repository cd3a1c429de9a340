import DocTemplate.Data.View
import DocTemplate.Data.Path

/-!
# Lookup

Following a data path through a view.  Inside a repeated element the current item is the scope: an
unqualified path is read from the scope when the scope has its name, and an array marker stands for
the scope itself.
-/

namespace DocTemplate

open DocTemplate.Text

/-- A list has positions under numeric names too; lists and texts have a length. -/
def Json.follow? (value : Json) (step : DataStep) : Option Json :=
  match step, value with
  | .field name, .object fields => fields.lookup name
  | .item name, .object fields => fields.lookup name
  | .field name, .list items =>
      if name = "length" then some (.ofNat items.length)
      else (readIndex? name.toList).bind (items[·]?)
  | .field name, .text content => if name = "length" then some (.ofNat content.length) else none
  | .index position, .list items => items[position]?
  | _, _ => none

def DataPath.readsScope (path : DataPath) (scope : Option Json) : Bool :=
  match scope, path.head? with
  | some (.object fields), some name => !path.qualified && (fields.lookup name).isSome
  | _, _ => false

/-- The value of the first step. -/
def DataPath.start? (path : DataPath) (view : View) (scope : Option Json) (first : DataStep) :
    Option Json :=
  match first with
  | .item name =>
      match scope with
      | some item => some item
      | none => view.get? name
  | .field name => if path.readsScope scope then scope.bind (·.follow? first) else view.get? name
  | .index _ => none

/-- Null in front of a step ends the walk. -/
def followSteps? (scope : Option Json) : Json → List DataStep → Option Json
  | value, [] => View.present value
  | value, step :: rest =>
      if value.isNull then none
      else
        match step, scope with
        | .item _, some item => followSteps? scope item rest
        | _, _ => (value.follow? step).bind fun next => followSteps? scope next rest

/-- The value at a path; a null at its end counts as missing. -/
def DataPath.lookup? (path : DataPath) (view : View) (scope : Option Json) : Option Json :=
  match path.steps with
  | [] => none
  | first :: rest =>
      (path.start? view scope first).bind fun value => followSteps? scope value rest

end DocTemplate
