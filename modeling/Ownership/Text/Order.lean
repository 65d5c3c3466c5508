/-!
# Sorted texts

Texts are ordered by code point, lists of texts by their first difference.
-/

namespace Ownership
namespace Text

instance (priority := 2000) listOrder : LE (List String) := List.instLE

instance (priority := 2000) decidableListOrder (a b : List String) : Decidable (a ≤ b) :=
  List.decidableLE a b

def sorted (texts : List String) : List String :=
  texts.mergeSort fun a b => decide (a ≤ b)

def sortedDistinct (texts : List String) : List String := sorted texts.eraseDups

theorem mem_sorted {text : String} {texts : List String} : text ∈ sorted texts ↔ text ∈ texts :=
  List.mem_mergeSort

end Text
end Ownership
