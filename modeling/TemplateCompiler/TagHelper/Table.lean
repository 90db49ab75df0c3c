import TemplateCompiler.TagHelper.Basic
import TemplateCompiler.Text.Width

/-!
# Tables of tag helpers

A set of tag helpers as a table for people: one row for each member, columns aligned by display
width, and a last line with the size and the digest of the set.
-/

namespace TemplateCompiler

namespace TagHelperSet

/-- A rule in short: parent, tag and the names of its required attributes. -/
def ruleText (r : TagHelper.Rule) : Text :=
  Text.when (!r.parentTag.isEmpty) (r.parentTag ++ ">") ++ r.tagName
    ++ Text.when (!r.attributes.isEmpty)
      ("[" ++ Text.join "," (r.attributes.map fun a => a.name) ++ "]")

def row (d : TagHelper) : List Text :=
  [d.kind, d.name, d.typeName, Text.join " " (d.rules.map ruleText), d.digest.short]

def headings : List Text := ["KIND", "NAME", "TYPE", "RULES", "CHECKSUM"]

def columnWidths (rows : List (List Text)) : List Nat :=
  rows.foldl (fun widths cells => List.zipWith max widths (cells.map Text.width))
    (headings.map fun _ => 0)

/-- A row with all cells but the last filled up to two columns beyond the width of their column. -/
def rowText : List Nat → List Text → Text
  | _, [] => []
  | _, [last] => last
  | w :: widths, cell :: cells => Text.padToWidth cell (w + 2) ++ rowText widths cells
  | [], cell :: cells => cell ++ rowText [] cells

def table (s : TagHelperSet) : Text :=
  let rows := headings :: s.items.map row
  let widths := columnWidths rows
  Text.concat (rows.map fun cells => rowText widths cells ++ "\n")
    ++ Text.ofNat s.items.length ++ " descriptors, set " ++ s.digest.short ++ "\n"

end TagHelperSet

end TemplateCompiler
