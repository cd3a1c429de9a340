import DocTemplate.Template.Element

/-!
# Palette

The element that a tag stands for when it is picked from a palette.  Tag names are picked without
regard to the case of ASCII letters.
-/

namespace DocTemplate

structure UnknownTag where
  name : String
  deriving DecidableEq, Repr

def UnknownTag.message (error : UnknownTag) : String := "Unknown element tag: " ++ error.name

namespace Tag

def element : Tag → Element
  | .frame => .frame []
  | .stack => .stack .column []
  | .grid => .grid 2 []
  | .text => .text "Text"
  | .image => .leaf (.image .none ⟨none, none, some "", none, none⟩)
  | .table => .table (.ofPath "items") [.ofPath "Item" "name"]
  | .divider => .divider
  | .repeater => .repeater (.ofPath "items") []

def sameName (a b : String) : Bool := a.toList.map Char.toLower == b.toList.map Char.toLower

def pick (name : String) : Except UnknownTag Tag :=
  match all.find? fun tag => sameName tag.name name with
  | some tag => .ok tag
  | none => .error ⟨name⟩

end Tag

end DocTemplate
