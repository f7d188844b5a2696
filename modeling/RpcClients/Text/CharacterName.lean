import RpcClients.Text.Name.Addition
import RpcClients.Text.Name.Ancient
import RpcClients.Text.Name.Asian
import RpcClients.Text.Name.Brahmic
import RpcClients.Text.Name.Component
import RpcClients.Text.Name.Composed
import RpcClients.Text.Name.Cuneiform
import RpcClients.Text.Name.Eastern
import RpcClients.Text.Name.European
import RpcClients.Text.Name.Further
import RpcClients.Text.Name.Graphic
import RpcClients.Text.Name.Hieroglyphic
import RpcClients.Text.Name.Indian
import RpcClients.Text.Name.Pictorial
import RpcClients.Text.Name.Styled
import RpcClients.Text.Name.Syllabic
import RpcClients.Text.Name.Symbolic

/-! # Characters by name

Every character that has a name can be written by it, and some can by further names. -/

namespace RpcClients.Text

namespace Name

def blocks : List Block :=
  [latinNames, phoneticNames, greekNames, cyrillicNames, phoneticExtensionNames,
   latinAdditionNames, greekExtensionNames, semiticNames, georgianAdditionNames, caucasianNames,
   northIndianNames, southIndianNames, tibetanNames, americanNames, runicNames,
   canadianExtensionNames, indonesianNames, punctuationNames, letterlikeNames, arrowNames,
   mathematicalNames, technicalNames, drawingNames, symbolNames, supplementaryNames,
   glagoliticNames, radicalNames, hexagramNames, yiNames, lisuNames, meeteiNames,
   jamoExtensionNames, presentationNames, halfwidthNames, linearNames, aegeanNames,
   latinModifierNames, brahmiNames, tirhutaNames, cuneiformNames, cyproNames, egyptianNames,
   anatolianNames, bamumNames, tangutNames, kanaExtensionNames, duployanNames, musicalNames,
   numeralNames, styledNames, signWritingNames, latinExtensionNames, numberFormNames, gameNames,
   pictographNames, transportNames, alchemicalNames, gestureNames, legacyNames, tagNames,
   selectorNames]

/-- All names in tables. They are put together when the first of them is looked up. -/
def listedNames : Thunk (List (String × Nat)) :=
  Thunk.mk fun _ => furtherNames ++ blocks.flatMap Block.names

/-- The code of a name in upper case that stands in a table. -/
def listed? (name : List Char) : Option Nat := listedNames.get.lookup (String.ofList name)

end Name

/-- The code of the character with a name. Lower case letters count as upper case ones, but not in the
names of ideographs and syllables. -/
def codeOfName? (name : List Char) : Option Nat :=
  let upper := name.map Char.toUpper
  Name.syllable? name <|> Name.unified? name <|> Name.otherCoded? upper <|> Name.listed? upper

end RpcClients.Text
