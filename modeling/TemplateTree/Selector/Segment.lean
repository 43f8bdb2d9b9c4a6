import TemplateTree.Selector.Basic
import TemplateTree.Selector.Token

/-! Reading a selector. A text is its tag followed by segments, each opened by a marker.
A segment counts when it is exactly one name; every other segment is dropped, so that
reading never fails. -/

namespace TemplateTree.Selector

inductive SegmentKind where
  | id
  | className
deriving DecidableEq, Repr

structure Segment where
  kind : SegmentKind
  body : List Token
deriving DecidableEq, Repr

namespace Segment

/-- The text of a segment without its marker. -/
def text (segment : Segment) : String :=
  String.join (segment.body.map Token.text)

def name? (segment : Segment) : Option String :=
  match segment.body with
  | [token] => if token.kind = .name then some token.text else none
  | _ => none

end Segment

/-- The tokens before the first marker, and the segments from there on. -/
def cut : List Token → List Token × List Segment
  | [] => ([], [])
  | token :: rest =>
    let (body, segments) := cut rest
    match token.kind with
    | .hash => ([], ⟨.id, body⟩ :: segments)
    | .dot => ([], ⟨.className, body⟩ :: segments)
    | .name | .junk => (token :: body, segments)

/-- A later id replaces an earlier one; classes accumulate. -/
def accept (selector : Selector) (segment : Segment) : Selector :=
  match segment.name?, segment.kind with
  | none, _ => selector
  | some name, .id => selector.withId name
  | some name, .className => selector.withClass name

/-- Reads a selector whose tag, when it is empty, is `fallback`. -/
def parseWith (fallback text : String) : Selector :=
  let (tagTokens, segments) := cut (tokens text)
  let tag := String.join (tagTokens.map Token.text)
  segments.foldl accept { tag := if tag.isEmpty then fallback else tag }

def parse (text : String) : Selector :=
  parseWith defaultTag text

/-- The segments that reading leaves out, in order. -/
def dropped (text : String) : List Segment :=
  (cut (tokens text)).2.filter (·.name?.isNone)

end TemplateTree.Selector
