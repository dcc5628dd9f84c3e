import StepConditions.Yaml.Token.Gap

/-!
# Plain scalars

A plain scalar ends at a colon before a gap, at a comment, at a document mark, where the
indentation goes back and, inside flow collections, at an indicator of theirs.
-/
namespace StepConditions.Yaml.Plain

/-- The word at the beginning, up to a gap or the end of the scalar. A colon right before an
indicator of a flow collection is refused. -/
def word? (flow : Bool) : List Char → Option (List Char)
  | [] => some []
  | ch :: cs =>
    let next := cs.headD endMark
    if isGap ch then some []
    else if flow && ch == ':' && (isFlowIndicator next || next == '?') then none
    else if (ch == ':' && isGap next) || (flow && isFlowIndicator ch) then some []
    else (word? flow cs).map (ch :: ·)

/-- Reads words and the gaps between them; `gap` is the one after `text`. The result tells whether
the scalar was left after a line break. -/
def readFrom? (flow : Bool) (indent : Int) :
    Nat → List Char → Gap → Cursor → Option (List Char × Bool × Cursor)
  | 0, _, _, _ => none
  | fuel + 1, text, gap, c =>
    if c.atDocumentMark || c.head == '#' then some (text, gap.broken, c)
    else match word? flow c.rest with
      | none => none
      | some [] => some (text, gap.broken, c)
      | some w =>
        let text := text ++ gap.text ++ w
        match Gap.read? indent .empty (c.advance w.length) with
        | none => none
        | some (gap, c) =>
          if !gap.broken && gap.blanks.isEmpty then some (text, false, c)
          else if !flow && (c.column : Int) < indent then some (text, gap.broken, c)
          else readFrom? flow indent fuel text gap c

/-- Reads a plain scalar; the lines after its first are indented at least to `indent`. -/
def read? (flow : Bool) (indent : Int) (c : Cursor) : Option (List Char × Bool × Cursor) :=
  readFrom? flow indent (c.left + 1) [] .empty c

end StepConditions.Yaml.Plain
