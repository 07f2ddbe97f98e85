import Requisite.Text.Blank

/-!
# Pages as trees

A page is a list of contents, texts and elements, and elements hold contents in turn. Elements are
found by selectors: a path of simple selectors matches an element that matches the last of them and
lies, at any depth, within elements that match the others in order.
-/

namespace Requisite.Page

/-- A piece of a page: text, or an element with its attributes and what it holds. -/
inductive Content where
  | text (cs : List Char)
  | element (name : String) (attributes : List (String × String)) (children : List Content)

namespace Content

mutual

/-- All text in a content, in order. -/
def textOf : Content → List Char
  | .text cs => cs
  | .element _ _ children => textOfAll children

/-- All text in some contents, in order. -/
def textOfAll : List Content → List Char
  | [] => []
  | c :: cs => textOf c ++ textOfAll cs

end

/-- All text in a content, without blanks around it. -/
def trimmedText (c : Content) : String :=
  String.ofList (Text.trimWhile Text.isBlank c.textOf)

/-- The value of an attribute; of an attribute given twice the last value counts. -/
def attribute? (name : String) : Content → Option String
  | .text _ => none
  | .element _ attributes _ => attributes.reverse.lookup name

end Content

/-- The words of a text, cut at blanks. -/
def words (cs : List Char) : List (List Char) :=
  (cs.splitBy fun a b => Text.isBlank a == Text.isBlank b).filter fun word =>
    !(word.all Text.isBlank)

/-- What a single element has to be: of a name, of some classes, of an id. -/
structure Selector where
  name : String
  classes : List String := []
  id : Option String := none

/-- Whether an element of this name with these attributes is selected. -/
def Selector.accepts (s : Selector) (name : String) (attributes : List (String × String)) : Bool :=
  let value (key : String) : String := (attributes.reverse.lookup key).getD ""
  let classes := (words (value "class").toList).map String.ofList
  s.name == name && s.classes.all classes.contains &&
    match s.id with
    | none => true
    | some id => value "id" == id

namespace Content

mutual

/-- The elements in a content that a path of selectors matches, in document order. An element that
matches the first selector of the path leaves the rest of the path to what it holds. -/
def select (path : List Selector) : Content → List Content
  | .text _ => []
  | .element name attributes children =>
    match path with
    | [] => []
    | [s] =>
      if s.accepts name attributes then
        .element name attributes children :: selectAll [s] children
      else selectAll [s] children
    | s :: next :: rest =>
      if s.accepts name attributes then selectAll (next :: rest) children
      else selectAll (s :: next :: rest) children

/-- The elements in some contents that a path of selectors matches, in document order. -/
def selectAll (path : List Selector) : List Content → List Content
  | [] => []
  | c :: cs => select path c ++ selectAll path cs

end

/-- The elements strictly within a content that a path of selectors matches. -/
def within (path : List Selector) : Content → List Content
  | .text _ => []
  | .element _ _ children => selectAll path children

end Content

end Requisite.Page
