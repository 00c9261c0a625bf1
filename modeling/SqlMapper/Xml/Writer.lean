import SqlMapper.Xml.Tree

/-!
Writing element trees. Five characters are written as references, what may not stand in a document
becomes the replacement character, and an element without content is written as one tag.
-/
namespace SqlMapper.Xml

def escapedChar (c : Char) : List Char :=
  if c == '&' then "&amp;".toList
  else if c == '<' then "&lt;".toList
  else if c == '>' then "&gt;".toList
  else if c == '\'' then "&apos;".toList
  else if c == '"' then "&quot;".toList
  else if isCharacter c then [c]
  else ['\ufffd']

def escaped (text : String) : String :=
  String.ofList (text.toList.flatMap escapedChar)

def Name.render (name : Name) : String :=
  if name.space == "" then name.tag else name.space ++ ":" ++ name.tag

def Attribute.render (a : Attribute) : String :=
  " " ++ a.name.render ++ "=\"" ++ escaped a.value ++ "\""

mutual

def Content.render : Content → String
  | .element name attributes children =>
      let opening := "<" ++ name.render ++ String.join (attributes.map Attribute.render)
      if children.isEmpty then opening ++ "/>"
      else opening ++ ">" ++ renderAll children ++ "</" ++ name.render ++ ">"
  | .text data => escaped data
  | .comment data => "<!--" ++ data ++ "-->"
  | .instruction target data => "<?" ++ target ++ (if data == "" then "" else " " ++ data) ++ "?>"
  | .directive data => "<!" ++ data ++ ">"

def renderAll : List Content → String
  | [] => ""
  | first :: rest => first.render ++ renderAll rest

end

/-- An element with plain names. -/
def make (tag : String) (attributes : List (String × String)) (children : List Content) : Content :=
  .element ⟨"", tag⟩ (attributes.map fun a => ⟨⟨"", a.1⟩, a.2⟩) children

/-- Character data, nothing for the empty text. -/
def textOf (data : String) : List Content :=
  if data == "" then [] else [.text data]

end SqlMapper.Xml
