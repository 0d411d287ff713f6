/-!
# Occurrences

Whether a text holds another one somewhere.
-/
namespace SourceLens.Text

/-- Whether `needle` stands somewhere in a character list. -/
def occursIn (needle : List Char) : List Char → Bool
  | [] => needle.isEmpty
  | c :: rest => needle.isPrefixOf (c :: rest) || occursIn needle rest

/-- Whether a text holds another one. -/
def holds (text needle : String) : Bool := occursIn needle.toList text.toList

end SourceLens.Text
