import TenantRoutes.Text.Ascii
import TenantRoutes.Text.Blank
/-! What may be used as a name. Ids become directory names below the content root, slugs and site
names become DNS labels, and domains are host names. -/
namespace TenantRoutes

/-- Whether two dots stand side by side. -/
def hasDoubleDot : List Char → Bool
  | '.' :: '.' :: _ => true
  | _ :: rest => hasDoubleDot rest
  | [] => false

/-- Whether an id can stand as one directory name below the content root: not empty, not the
directory itself, and without two dots in a row or a separator anywhere. -/
def isDirectoryName (id : String) : Bool :=
  let chars := id.toList
  !chars.isEmpty && id != "." && !hasDoubleDot chars
    && !chars.contains '/' && !chars.contains '\\'

/-- The characters of a DNS label. -/
def isLabelChar (c : Char) : Bool :=
  Text.isAlphanumeric c || c == '-'

/-- A DNS label: 1 to 63 ASCII letters, digits and hyphens, with no hyphen at either end. -/
def isLabel (label : List Char) : Bool :=
  !label.isEmpty && label.length ≤ 63 && label.head? != some '-' && label.getLast? != some '-'
    && label.all isLabelChar

/-- A text that is a DNS label. -/
def isLabelText (s : String) : Bool :=
  isLabel s.toList

/-- The dot-separated parts of a host name. -/
def hostLabels (name : String) : List (List Char) :=
  Text.pieces '.' name.toList

/-- A host name: DNS labels with dots between them, at most 253 bytes in all. -/
def isHostname (name : String) : Bool :=
  name.utf8ByteSize ≤ 253 && (hostLabels name).all isLabel

end TenantRoutes
