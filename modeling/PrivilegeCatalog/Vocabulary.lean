/-!
# The words of a document

The elements of a list of privileges and their attributes.
-/

namespace PrivilegeCatalog.Vocabulary

/-- The element that holds the list. -/
def rootElement : String := "privileges"

/-- The element of one privilege. -/
def entryElement : String := "privilege"

/-- The element of one member of a privilege. -/
def memberElement : String := "contains"

/-- The attribute with the name of a privilege or of a member. -/
def nameAttribute : String := "name"

/-- The attribute that tells whether a privilege is abstract. -/
def abstractAttribute : String := "abstract"

end PrivilegeCatalog.Vocabulary
