-- Looking emoji up by their names.
import Stencil.Emoji.Creatures
import Stencil.Emoji.Faces
import Stencil.Emoji.Flags
import Stencil.Emoji.Joined
import Stencil.Emoji.Pictographs
import Stencil.Emoji.Signs
import Stencil.Emoji.Supplement
import Stencil.Emoji.Symbols
import Stencil.Emoji.Tone
import Stencil.Emoji.Transport
import Stencil.Text.Mark

namespace Stencil.Emoji

/-- The emoji that are one character, with their names. -/
def characters : List (String × List String) :=
  symbols ++ pictographs ++ creatures ++ signs ++ faces ++ transport ++ supplement

/-- What a table gives a name to. -/
def named? (table : List (String × List String)) (name : String) : Option (List Char) :=
  (table.find? fun (_, names) => names.contains name).map fun (text, _) => text.toList

/-- The flag with a name. -/
def flag? (name : String) : Option (List Char) :=
  ((countries.find? fun (country, _) => name = country || name = "flag_for_" ++ country).or
    (otherCountries.find? fun (other, _) => name = other)).map fun (_, code) => flag code

/-- The flag of a part of a country with a name. -/
def partFlag? (name : String) : Option (List Char) := (countryParts.lookup name).map partFlag

/-- The emoji with a name that names no tone. -/
def untoned? (name : String) : Option (List Char) :=
  named? characters name
  |>.or ((named? joinedParts name).map joined)
  |>.or ((named? colourKeys name).map (· ++ [colourForm, keyFrame]))
  |>.or ((named? textKeys name).map (· ++ [keyFrame]))
  |>.or (flag? name)
  |>.or (partFlag? name)
  |>.or ((named? flagLetterNames name).map (·.map flagLetter))

/-- The emoji with a name that ends in a tone. -/
def toned? (name : String) : Option (List Char) :=
  Tone.all.findSome? fun t => do
    let base ← Text.before? t.ending.toList name.toList
    if tonedNames.contains (String.ofList base) then
      (untoned? (String.ofList base)).map t.applied
    else none

/-- The emoji with a name in small letters. -/
def ofName? (name : String) : Option (List Char) := (untoned? name).or (toned? name)

end Stencil.Emoji
