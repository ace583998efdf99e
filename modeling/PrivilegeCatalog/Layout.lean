import PrivilegeCatalog.Validation

/-!
# Layouts

How a document is set out when it is written: its indentation, its encoding, and whether an XML
declaration stands at its start.
-/

namespace PrivilegeCatalog

/-- The outer form of a written document. Without indentation it is one line. -/
structure Layout where
  indent : String := "    "
  encoding : String := "UTF-8"
  declaration : Bool := true
  deriving DecidableEq, Repr

/-- A layout from the fields that a caller gives. Fields of other names are passed over. -/
def Layout.ofFields (entries : List (String × Value)) : Checked Layout :=
  let standard : Layout := {}
  let indent := Value.field entries "indent" Value.asText (.ok standard.indent)
  let encoding := Value.field entries "encoding" Value.asText (.ok standard.encoding)
  let declaration :=
    Value.field entries "xml_declaration" Value.asBoolean (.ok standard.declaration)
  (Checked.both indent (Checked.both encoding declaration)).map
    fun (indent, encoding, declaration) => ⟨indent, encoding, declaration⟩

end PrivilegeCatalog
