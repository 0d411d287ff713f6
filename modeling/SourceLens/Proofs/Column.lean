import SourceLens.Grammar
import SourceLens.Proofs.Text.ByteLines
import SourceLens.Proofs.Text.Lenient
import SourceLens.Proofs.Tree.Decodable

/-!
# Columns

A tree tells the place of a node by a row and a number of bytes; the column of the node counts
characters. It is read off the bytes of the row before the node, and these may end inside a
character when the tree does not fit the text. Still the column is exact: it is the number of
characters that begin before the node (`column_counts_characters`), so where the node begins with a
character the text of the node follows the characters that are counted, and where it does not the
character that is cut counts as well.
-/
namespace SourceLens

open Text.Utf8

/-- A point is that of a byte position: its row is the number of line feeds before the position, and
its column is the number of bytes behind the last of them. -/
structure Document.IsPointAt (doc : Document) (position : Nat) (point : Point) : Prop where
  /-- The row counts the line feeds before the position. -/
  row : point.row = (doc.text.toUTF8.data.toList.take position).count feed
  /-- The column counts the bytes behind the last line feed before the position. -/
  column : point.column =
    ((doc.text.toUTF8.data.toList.take position).rtakeWhile (· != feed)).length

/-- A column counts the characters of a line before a point. -/
structure CountsCharacters (doc : Document) (line : List Char) (point : Point) (column : Int) :
    Prop where
  /-- It is the number of characters whose bytes begin before the byte offset of the point. -/
  begun : column = countBegun line point.column
  /-- An offset that is at the end of the line or past it counts all characters. -/
  whole : (encode line).length ≤ point.column → column = line.length
  /-- Where the point is that of a position between two characters of the text, the column counts
  the characters between the last line feed and the position, and behind that many characters of the
  line there is what the text has from the position to the end of the line. -/
  boundary : ∀ front back, doc.text.toList = front ++ back →
    doc.IsPointAt (encode front).length point →
    column = (front.rtakeWhile (· != '\n')).length ∧
      line.drop (front.rtakeWhile (· != '\n')).length = back.takeWhile (· != '\n')
  /-- An offset inside a character counts the characters before it and the character itself. -/
  cut : ∀ front c back, line = front ++ c :: back → (encode front).length < point.column →
    point.column < (encode front).length + c.utf8Size → column = front.length + 1

/-- The column of a byte offset is the number of characters that begin before it. -/
theorem Document.column_eq_countBegun {doc : Document} {row offset : Nat} {line : String}
    (here : doc.lines[row]? = some line) : doc.column row offset = countBegun line.toList offset := by
  simp only [column, here, toList_eq_data, toList_data_toUTF8, length_lenient_take]

/-- The point of a position between two characters, and the line that it is in. -/
theorem Document.IsPointAt.of_append {doc : Document} {front back : List Char} {point : Point}
    (parts : doc.text.toList = front ++ back) (placed : doc.IsPointAt (encode front).length point) :
    doc.lines[point.row]? = some (String.ofList
        (front.rtakeWhile (· != '\n') ++ back.takeWhile (· != '\n'))) ∧
      point.column = (encode (front.rtakeWhile (· != '\n'))).length := by
  have bytes : doc.text.toUTF8.data.toList.take (encode front).length = encode front := by
    have joined : encode (front ++ back) = encode front ++ encode back := List.flatMap_append
    rw [toList_data_toUTF8, parts, joined, List.take_left]
  obtain ⟨row, column⟩ := placed
  rw [bytes] at row column
  constructor
  · rw [row, count_encode, doc.divided, Text.lines, List.getElem?_map, parts,
      Text.getElem?_splitLines]
    rfl
  · rw [column, rtakeWhile_encode]

/-- The column of a site in a row of the document counts characters: those that begin before the
byte offset of the site, however the offset falls. -/
theorem column_counts_characters (doc : Document) (site : Site)
    (inside : site.tree.info.start.row < doc.lineCount) :
    ∃ line, doc.lines[site.tree.info.start.row]? = some line ∧
      CountsCharacters doc line.toList site.tree.info.start (site.columnIn doc) := by
  generalize point_eq : site.tree.info.start = point at inside
  obtain ⟨line, here⟩ : ∃ line, doc.lines[point.row]? = some line :=
    ⟨_, List.getElem?_eq_getElem inside⟩
  have counted : site.columnIn doc = countBegun line.toList point.column := by
    rw [Site.columnIn, point_eq, Document.column_eq_countBegun here]
  refine ⟨line, here, counted, ?_, ?_, ?_⟩
  · intro behind
    have all := countBegun_append line.toList [] behind
    rw [List.append_nil] at all
    rw [counted, all]
    simp [countBegun]
  · intro front back parts placed
    obtain ⟨found, column⟩ := placed.of_append parts
    obtain rfl := Option.some.inj (here.symm.trans found)
    have all := countBegun_append (front.rtakeWhile (· != '\n')) (back.takeWhile (· != '\n'))
      (Nat.le_of_eq column.symm)
    rw [counted, String.toList_ofList, all, column, Nat.sub_self, countBegun_zero]
    exact ⟨rfl, List.drop_left⟩
  · intro front c back parts begun ends
    have all := countBegun_append front (c :: back) (Nat.le_of_lt begun)
    have own : point.column - (encode front).length ≤ (String.utf8EncodeChar c).length := by
      rw [String.length_utf8EncodeChar]
      omega
    rw [counted, parts, all, countBegun_cons c back (by omega), Nat.sub_eq_zero_of_le own,
      countBegun_zero]
    rfl

/-- A document whose second row has characters of two, three and one bytes. -/
def wideCharacters : Document := ⟨"t.py", "a\né€x", _, rfl⟩

/-- A site that begins at a byte of the second row. -/
def siteInSecondRow (offset : Nat) : Site :=
  .root (.covering "identifier" none (2 + offset) ⟨1, offset⟩ ⟨1, 6⟩ "x" [])

/-- Behind a character that is cut, and behind the same character as a whole, the column is two. In
the second place the row goes on with the last character. -/
theorem column_counts_characters_wideCharacters :
    1 < wideCharacters.lineCount ∧ (siteInSecondRow 3).columnIn wideCharacters = 2 ∧
      wideCharacters.IsPointAt (encode "a\né€".toList).length ⟨1, 5⟩ ∧
      (siteInSecondRow 5).columnIn wideCharacters = 2 ∧ "é€x".toList.drop 2 = ['x'] := by
  have inside : 1 < wideCharacters.lineCount := by decide +kernel
  have row : wideCharacters.lines[1]? = some "é€x" := by decide +kernel
  have point : wideCharacters.IsPointAt (encode "a\né€".toList).length ⟨1, 5⟩ :=
    ⟨by decide +kernel, by decide +kernel⟩
  obtain ⟨line, here, cut⟩ := column_counts_characters wideCharacters (siteInSecondRow 3) inside
  obtain ⟨line', here', whole⟩ :=
    column_counts_characters wideCharacters (siteInSecondRow 5) inside
  obtain rfl := Option.some.inj (row.symm.trans here)
  obtain rfl := Option.some.inj (row.symm.trans here')
  obtain ⟨counted, rest⟩ := whole.boundary "a\né€".toList ['x'] (by decide +kernel) point
  exact ⟨inside, cut.cut ['é'] '€' ['x'] (by decide +kernel) (by decide +kernel)
    (by decide +kernel), point, counted, rest⟩

end SourceLens
