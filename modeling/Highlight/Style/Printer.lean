import Highlight.Style.Basic

namespace Highlight

namespace Setting

def describe {α : Type} (display : α → String) (s : Setting α) : String :=
  "Setting(value=" ++ display s.value ++ ", important=" ++ boolName s.important ++ ")"
where
  boolName : Bool → String
  | true => "True"
  | false => "False"

end Setting

namespace Style

def describeValue : (a : Attribute) → a.Value → String
  | .foreground, c | .background, c => c.describe
  | .content, t => Text.quoted t
  | .effect _, b => Setting.describe.boolName b

def describeAttribute (s : Style) (a : Attribute) : String :=
  a.name ++ "=" ++ match s.get a with
    | none => "None"
    | some v => v.describe (describeValue a)

def describe (s : Style) : String :=
  "StyleBuilder(" ++ ", ".intercalate (Attribute.all.map s.describeAttribute) ++ ")"

end Style

end Highlight
