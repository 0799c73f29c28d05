import Phrasebook.Text.Case
import Phrasebook.Text.Wrap

/-!
# Names of styles and emoji

Names are set apart by blanks and compared in lower case.
-/

namespace Phrasebook.Styled

/-- The parts of a text between blanks. -/
def parts (t : Text) : List Text :=
  (Text.words t).map Text.strip

end Phrasebook.Styled
