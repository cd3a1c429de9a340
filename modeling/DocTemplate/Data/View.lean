import DocTemplate.Json.Fields

/-!
# Views

The data that a template is shown with: an object with nine named sections, each null unless given,
and any other fields beside them.
-/

namespace DocTemplate

inductive Section where
  | proposal
  | organization
  | client
  | salesperson
  | items
  | upgrades
  | payments
  | notes
  | totals
  deriving DecidableEq, Repr

namespace Section

def all : List Section :=
  [.proposal, .organization, .client, .salesperson, .items, .upgrades, .payments, .notes, .totals]

def key : Section → String
  | .proposal => "proposal"
  | .organization => "organization"
  | .client => "client"
  | .salesperson => "salesperson"
  | .items => "items"
  | .upgrades => "upgrades"
  | .payments => "payments"
  | .notes => "notes"
  | .totals => "totals"

def ofKey? (key : String) : Option Section := all.find? (·.key == key)

end Section

structure View where
  named : Section → Json
  extra : List (String × Json)

namespace View

def empty : View := ⟨fun _ => .null, []⟩

instance : Inhabited View := ⟨empty⟩

def ofFields (fields : List (String × Json)) : View where
  named name := (fields.lookup name.key).getD .null
  extra := fields.filter fun (key, _) => (Section.ofKey? key).isNone

/-- A named section may not be given twice. -/
def ofJson? : Json → Option View
  | .object fields =>
      if Section.all.all fun name => (Json.single? fields name.key).isSome then
        some (ofFields (Json.sortedFields fields))
      else none
  | _ => none

/-- A null counts as missing. -/
def present (value : Json) : Option Json := if value.isNull then none else some value

def get? (view : View) (key : String) : Option Json :=
  match Section.ofKey? key with
  | some name => present (view.named name)
  | none => (view.extra.lookup key).bind present

/-- Sections without data are left out. -/
def toJson (view : View) : Json :=
  .object
    ((Section.all.filter fun name => !(view.named name).isNull).map
        (fun name => (name.key, view.named name)) ++
      view.extra)

end View

end DocTemplate
