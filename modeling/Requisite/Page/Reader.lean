import Requisite.Page.Markup
import Requisite.Page.Tree

/-!
# Reading pages

The tree of a page. A start tag opens an element within the innermost open one; an end tag closes
the latest open element of its name with all that is open within it, and does nothing without one;
what is open at the end of the page ends there. Void elements hold nothing, so they are closed as
they are opened, and the next end tag of their name, which then has nothing to close, is passed
over.
-/

namespace Requisite.Page

/-- An open element: its name, its attributes, and what it holds so far, the latest first. -/
structure Frame where
  name : String
  attributes : List (String × String)
  contents : List Content

/-- The open elements of a page, the innermost first, within the page itself. -/
structure OpenPage where
  /-- What the page holds outside all open elements, the latest first. -/
  outer : List Content := []
  frames : List Frame := []
  /-- The text since the last piece that is no text, the latest character first. -/
  pending : List Char := []
  /-- The names of the void elements whose end tags are still to be passed over. -/
  closed : List String := []

namespace OpenPage

/-- The elements that never hold anything. -/
def voidNames : List String := [
  "area", "base", "br", "col", "embed", "hr", "img", "input", "keygen", "link", "menuitem", "meta",
  "param", "source", "track", "wbr", "basefont", "bgsound", "command", "frame", "image", "isindex",
  "nextid", "spacer"]

/-- The page with one more content in the innermost open element. -/
def add (page : OpenPage) (c : Content) : OpenPage :=
  match page.frames with
  | [] => { page with outer := c :: page.outer }
  | top :: frames => { page with frames := { top with contents := c :: top.contents } :: frames }

/-- The page with the innermost `n` open elements closed. -/
def close : Nat → OpenPage → OpenPage
  | 0, page => page
  | n + 1, page =>
    match page.frames with
    | [] => page
    | top :: frames =>
      close n (add { page with frames } (.element top.name top.attributes top.contents.reverse))

/-! ## Text -/

/-- The elements whose text is kept as it is. -/
def keepsBlanks (frame : Frame) : Bool := frame.name == "pre" || frame.name == "textarea"

/-- The elements whose text is not part of the page's. -/
def isHidden (frame : Frame) : Bool := ["template", "rt", "rp"].contains frame.name

/-- The characters that a text between tags consists of to count as blank. -/
def isGap (c : Char) : Bool := " \t\n\x0c\r".toList.contains c

/-- A text as it is kept: of blanks alone only one stays, a line break if there is one. -/
def keptText (page : OpenPage) (cs : List Char) : List Char :=
  if !cs.all isGap || page.frames.any keepsBlanks then cs
  else if cs.contains '\n' then ['\n']
  else [' ']

/-- The page with the text that was pending in the innermost open element. -/
def settle (page : OpenPage) : OpenPage :=
  if page.pending.isEmpty then page
  else
    let page' := { page with pending := [] }
    if page.frames.any isHidden then page'
    else page'.add (.text (page.keptText page.pending.reverse))

/-! ## Pieces -/

/-- The page after an end tag. -/
def stop (page : OpenPage) (name : String) : OpenPage :=
  if page.closed.contains name then { page with closed := page.closed.erase name }
  else
    let page := page.settle
    match page.frames.findIdx? fun frame => frame.name == name with
    | some i => page.close (i + 1)
    | none => page

/-- The page after a start tag, and its end tag where it ends in a slash. -/
def start (page : OpenPage) (name : String) (attributes : List (String × String))
    (slash : Bool) : OpenPage :=
  let page := page.settle
  let opened := { page with frames := ⟨name, attributes, []⟩ :: page.frames }
  if slash then opened.stop name
  else if voidNames.contains name then
    let page := opened.close 1
    { page with closed := name :: page.closed }
  else opened

/-- The page after one more piece. -/
def step (page : OpenPage) : Piece → OpenPage
  | .start name attributes slash => page.start name attributes slash
  | .stop name => page.stop name
  | .text cs => { page with pending := cs.reverse ++ page.pending }
  | .characters cs =>
    let page := page.settle
    page.add (.text (page.keptText cs))
  | .comment => page.settle

end OpenPage

/-- The contents of a written page. -/
def read (page : String) : Except MarkupFault (List Content) := do
  let final := ((← pieces page.toList).foldl OpenPage.step {}).settle
  return (final.close final.frames.length).outer.reverse

/-- The elements of a page that a path of selectors matches, in document order. -/
def select (path : List Selector) (page : List Content) : List Content :=
  Content.selectAll path page

end Requisite.Page
