import Phrasebook.Styled.EmojiNames
import Phrasebook.Styled.Name
import Std.Data.HashMap

/-!
# Emoji names in a text

A name between colons stands for an emoji, as in `:heart:`. The suffix `-emoji` or `-text` asks for
it as a picture or as a plain character. What stands between two colons and is no name stays as it
is, with both colons.
-/

namespace Phrasebook.Styled

/-- The table of emoji from a list in which each name is followed by its emoji. -/
def emojiTableOf : List Text → Std.HashMap Text Text
  | name :: emoji :: rest => (emojiTableOf rest).insert name emoji
  | _ => ∅

def emojiTable : Std.HashMap Text Text :=
  emojiTableOf (parts emojiNames.toList)

/-- The suffixes of a name, with the characters that they put behind the emoji. -/
def emojiVariants : List (Text × Text) :=
  [("-emoji".toList, ['\ufe0f']), ("-text".toList, ['\ufe0e'])]

/-- The emoji that a name with or without a suffix stands for. -/
def emoji? (code : Text) : Option Text :=
  let variant := emojiVariants.find? fun v => v.1.isSuffixOf code
  let suffix := (variant.map Prod.fst).getD []
  let name := code.take (code.length - suffix.length)
  emojiTable[Text.lower name]?.map (· ++ (variant.map Prod.snd).getD [])

/-- The text between a colon and the next one, if no blank is before that. -/
def emojiCode? (t : Text) : Option Text :=
  let code := t.takeWhile fun c => c ≠ ':' && !Text.isBlank c
  if (t.drop code.length).head? = some ':' then some code else none

/-- The text with its names of emoji replaced. -/
def withEmoji : Text → Text
  | [] => []
  | c :: t =>
    if c = ':' then match emojiCode? t with
      | none => c :: withEmoji t
      | some code =>
        (emoji? code).getD (':' :: code ++ [':']) ++ withEmoji (t.drop (code.length + 1))
    else c :: withEmoji t
termination_by t => t.length
decreasing_by all_goals simp only [List.length_cons, List.length_drop]; omega

end Phrasebook.Styled
