import DnsSteering.Json.Basic
import DnsSteering.Number.Shortest
import DnsSteering.Text.Quoted

namespace DnsSteering.Json

def parted (parts : List String) : String := ", ".intercalate parts

mutual
def quoted : Json → String
  | .null => "None"
  | .bool b => if b then "True" else "False"
  | .int n => toString n
  | .float x => x.text
  | .str t => Text.quoted t
  | .arr items => "[" ++ parted (quotedItems items) ++ "]"
  | .obj fields => "\x7b" ++ parted (quotedFields fields) ++ "\x7d"
def quotedItems : List Json → List String
  | [] => []
  | item :: items => quoted item :: quotedItems items
def quotedFields : List (LooseText × Json) → List String
  | [] => []
  | (key, value) :: fields => (Text.quoted key ++ ": " ++ quoted value) :: quotedFields fields
end

-- Inside messages. A text stands bare where it is the whole of an argument, and quoted inside lists and
-- objects.
def display : Json → LooseText
  | .str t => t
  | v => .plain v.quoted

def shown (v : Json) : String := v.display.shown

end DnsSteering.Json
