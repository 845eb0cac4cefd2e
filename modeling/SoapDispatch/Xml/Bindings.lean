import SoapDispatch.Dictionary

/-!
# Namespace bindings

A binding gives a qualifier the namespace it stands for; the empty qualifier stands for names
without one. The qualifiers `xml` and `xmlns` are bound once and for all.
-/

namespace SoapDispatch.Xml

/-- Qualifiers with the namespaces they stand for, ordered by qualifier. -/
abbrev Bindings := Dictionary String

/-- The namespace that the qualifier `xml` always stands for. -/
def xmlUri : String := "http://www.w3.org/XML/1998/namespace"

/-- The namespace that the qualifier `xmlns` always stands for. -/
def xmlnsUri : String := "http://www.w3.org/2000/xmlns/"

namespace Bindings

/-- What a qualifier stands for, the two reserved ones included. -/
def resolve? (bindings : Bindings) (qualifier : String) : Option String :=
  if qualifier = "xml" then some xmlUri
  else if qualifier = "xmlns" then some xmlnsUri
  else Dictionary.get? qualifier bindings

/-- Whether a binding says something: not of a reserved qualifier, nor the absence of a default. -/
def isTelling (binding : String × String) : Bool :=
  binding.1 != "xml" && binding.1 != "xmlns" && !(binding.1 == "" && binding.2 == "")

/-- The bindings without those that say nothing. -/
def telling (bindings : Bindings) : Bindings :=
  bindings.filter isTelling

end Bindings

end SoapDispatch.Xml
