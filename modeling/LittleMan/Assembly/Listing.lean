import LittleMan.Assembly.Basic

/-!
# Listings

A listing shows a source beside its assembly: mailbox, word and source line. The source starts in
the same column of every row. A line without a word, be it a comment or a line that could not be
encoded, has blanks in its place; blank lines and lines that could not be read are left out.
-/

namespace LittleMan

namespace Assembly

/-- The first row of a listing. -/
def listingHeading : Text :=
  "ADDR  WORD  SOURCE"

/-- The rule above and below the rows. -/
def listingRule : Text :=
  List.replicate 60 '-'

/-- The row of a line with a mailbox and a word. -/
def encodedRow (address : Nat) (word : Int) (text : Text) : Text :=
  (Text.digits address).leftpad 4 ' ' ++ "  " ++ Text.zeroPadded 3 word ++ "   " ++ Text.strip text

/-- The row of another line, if it is not blank. -/
def plainRow? (text : Text) : Option Text :=
  if (Text.strip text).isEmpty then none else some (List.replicate 12 ' ' ++ Text.strip text)

/-- The last row of a listing. -/
def listingSummary (size labels : Nat) : Text :=
  Text.digits size ++ " mailboxes used, " ++ Text.digits labels ++ " labels"

/-- A listing with the given rows between its rules. -/
def listingWith (rows : List Text) (size labels : Nat) : Text :=
  Text.joinRows
    (listingHeading :: listingRule :: rows ++ [listingRule, listingSummary size labels])

/-- The row of an entry with the word that it was given, if it has one. -/
def listingRow? : Entry × Option Int → Option Text
  | (.placed line _ address, some word) => some (encodedRow address word line.text)
  | (e, _) => e.line?.bind fun line => plainRow? line.text

/-- The rows of a listing between its rules. -/
def listingRows (a : Assembly) : List Text :=
  a.wordedEntries.filterMap listingRow?

/-- The listing of an assembly. -/
def listing (a : Assembly) : Text :=
  listingWith a.listingRows a.size a.symbols.length

end Assembly

end LittleMan
